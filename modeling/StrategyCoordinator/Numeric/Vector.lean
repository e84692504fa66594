import StrategyCoordinator.Numeric.Scalar

/-!
# Vectors and matrices of checked shape

Vectors have any length, so an operation on two of them first looks at their lengths. A dot
product needs equal lengths. A sum or difference needs equal lengths too, except that a
vector of length one is repeated to the length of the other one. Where the shapes do not
combine the operation has no result, and no element is ever invented.

Products are summed from left to right. Array libraries may add up several partial sums of a
vector with eight elements or more instead, so a result in double precision may differ from
theirs in its last bits; no statement rests on the order of the summands.

The rows of a matrix have the length that the matrix states, which also holds of a matrix
without rows.
-/

namespace StrategyCoordinator

/-- A vector, as the list of its elements. -/
abbrev Vec (R : Type) := List R

namespace Vec

variable {R : Type}

/-- The sum of the products of paired elements, added to `start` from left to right. -/
def accumulateProducts [Add R] [Mul R] (start : R) (a b : Vec R) : R :=
  (a.zip b).foldl (fun total pair => total + pair.1 * pair.2) start

/-- The dot product of two vectors of equal length. -/
def dot? [Zero R] [Add R] [Mul R] (a b : Vec R) : Option R :=
  if a.length = b.length then some (accumulateProducts 0 a b) else none

/-- Combine two vectors element by element, repeating a vector of length one. -/
def combine? (op : R → R → R) (a b : Vec R) : Option (Vec R) :=
  if a.length = b.length then some (a.zipWith op b)
  else
    match a, b with
    | [x], _ => some (b.map (op x))
    | _, [y] => some (a.map (op · y))
    | _, _ => none

/-- The sum of two vectors. -/
def add? [Add R] (a b : Vec R) : Option (Vec R) :=
  combine? (· + ·) a b

/-- The difference of two vectors. -/
def sub? [Sub R] (a b : Vec R) : Option (Vec R) :=
  combine? (· - ·) a b

/-- The vector with `n` zero elements. -/
def zeros [Zero R] (n : Nat) : Vec R :=
  List.replicate n 0

/-- Vectors of equal length combine element by element. -/
theorem combine?_of_length_eq (op : R → R → R) {a b : Vec R} (h : a.length = b.length) :
    combine? op a b = some (a.zipWith op b) := by
  simp [combine?, h]

/-- Vectors of equal length have a dot product. -/
theorem dot?_of_length_eq [Zero R] [Add R] [Mul R] {a b : Vec R} (h : a.length = b.length) :
    dot? a b = some (accumulateProducts 0 a b) := by
  simp [dot?, h]

/-- A zero vector has the length that was asked for. -/
theorem zeros_length [Zero R] (n : Nat) : (zeros n : Vec R).length = n :=
  List.length_replicate

end Vec

/-- A matrix by its rows, all of the stated length. -/
structure Matrix (R : Type) where
  columns : Nat
  rows : List (Vec R)
  regular : ∀ row ∈ rows, row.length = columns

namespace Matrix

variable {R : Type}

/-- The matrix with no rows and the given number of columns. -/
def empty (columns : Nat) : Matrix R :=
  ⟨columns, [], by simp⟩

/-- The matrix with the given rows, if all of them have the given length. -/
def ofRows? (columns : Nat) (rows : List (Vec R)) : Option (Matrix R) :=
  if h : ∀ row ∈ rows, row.length = columns then some ⟨columns, rows, h⟩ else none

/-- The product with a vector that has one element for each column: one dot product a row. -/
def mulVec? [Zero R] [Add R] [Mul R] (m : Matrix R) (v : Vec R) : Option (Vec R) :=
  if m.columns = v.length then some (m.rows.map fun row => Vec.accumulateProducts 0 row v)
  else none

/-- A product has one element for each row. -/
theorem length_of_mulVec? [Zero R] [Add R] [Mul R] {m : Matrix R} {v w : Vec R}
    (h : m.mulVec? v = some w) : w.length = m.rows.length := by
  unfold mulVec? at h
  split at h
  · obtain rfl := Option.some.inj h
    exact List.length_map _
  · contradiction

end Matrix

end StrategyCoordinator
