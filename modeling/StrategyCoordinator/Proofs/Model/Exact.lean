import Mathlib.Algebra.Order.Field.Basic
import Mathlib.Tactic.Ring
import StrategyCoordinator.Model.QuasiNewton

/-!
# Exact arithmetic

In an ordered field nothing is rounded. A sum of products that is accumulated from left to right is
then the inner product, which is symmetric, and additive on vectors of equal length.
-/

namespace StrategyCoordinator

/-- The arithmetic of an ordered field. -/
instance {K : Type} [Field K] [LinearOrder K] : Scalar K where
  half := 1 / 2
  tenth := 1 / 10

namespace Vec

/-- The sum of two vectors of equal length. -/
abbrev plus {R : Type} [Add R] (a b : Vec R) : Vec R :=
  a.zipWith (· + ·) b

variable {K : Type} [Field K]

/-- The inner product of two vectors of equal length. -/
def inner (a b : Vec K) : K :=
  (a.zipWith (· * ·) b).sum

@[simp] theorem inner_cons (x y : K) (a b : Vec K) :
    inner (x :: a) (y :: b) = x * y + inner a b := by
  simp [inner]

/-- Accumulating products adds the inner product. -/
theorem accumulateProducts_eq (start : K) (a b : Vec K) :
    accumulateProducts start a b = start + inner a b := by
  induction a generalizing start b with
  | nil => simp [accumulateProducts, inner]
  | cons x a ih =>
    cases b with
    | nil => simp [accumulateProducts, inner]
    | cons y b =>
      change accumulateProducts (start + x * y) a b = _
      rw [ih, inner_cons]
      ring

/-- Sums of vectors can be grouped in either way. -/
theorem plus_assoc (a b c : Vec K) : (a.plus b).plus c = a.plus (b.plus c) := by
  apply List.ext_getElem
  · simp only [plus, List.length_zipWith, Nat.min_assoc]
  · intro i _ _
    simp only [plus, List.getElem_zipWith, add_assoc]

/-- The inner product is symmetric. -/
theorem inner_comm (a b : Vec K) : inner a b = inner b a := by
  rw [inner, inner, List.zipWith_comm]
  simp only [mul_comm]

/-- The inner product is additive on the left. -/
theorem plus_inner {a b : Vec K} (h : a.length = b.length) (v : Vec K) :
    inner (a.plus b) v = inner a v + inner b v := by
  induction a generalizing b v with
  | nil =>
    obtain rfl := List.length_eq_zero_iff.mp h.symm
    simp [inner]
  | cons x a ih =>
    cases b with
    | nil => cases h
    | cons y b =>
      cases v with
      | nil => simp [inner]
      | cons z v =>
        rw [plus, List.zipWith_cons_cons, inner_cons, inner_cons, inner_cons,
          ih (Nat.succ.inj h)]
        ring

/-- The inner product is additive on the right. -/
theorem inner_plus {a b : Vec K} (h : a.length = b.length) (v : Vec K) :
    inner v (a.plus b) = inner v a + inner v b := by
  rw [inner_comm, plus_inner h, inner_comm a, inner_comm b]

/-- The inner product with a zero vector is zero. -/
theorem inner_zeros (v : Vec K) (n : Nat) : inner v (zeros n) = 0 := by
  induction v generalizing n with
  | nil => rfl
  | cons x v ih =>
    cases n with
    | zero => rfl
    | succ n =>
      change inner (x :: v) (0 :: zeros n) = 0
      rw [inner_cons, ih, mul_zero, add_zero]

/-- A zero vector of the same length changes nothing. -/
theorem plus_zeros (v : Vec K) : v.plus (zeros v.length) = v := by
  induction v with
  | nil => rfl
  | cons x v ih =>
    change (x + 0) :: plus v (zeros v.length) = x :: v
    rw [ih, add_zero]

/-- Only a zero vector is its own double. -/
theorem eq_zeros_of_eq_plus {v : Vec K} (h : v = v.plus v) : v = zeros v.length := by
  induction v with
  | nil => rfl
  | cons x v ih =>
    rw [plus, List.zipWith_cons_cons, List.cons.injEq] at h
    change x :: v = 0 :: zeros v.length
    rw [← ih h.2, left_eq_add.mp h.1]

end Vec

namespace Matrix

variable {K : Type} [Field K]

/-- The product of a matrix with a vector of as many elements as it has columns. -/
def times (a : Matrix K) (v : Vec K) : Vec K :=
  a.rows.map (·.inner v)

@[simp] theorem times_length (a : Matrix K) (v : Vec K) : (a.times v).length = a.rows.length :=
  List.length_map _

/-- The product with a matrix is additive. -/
theorem times_plus (a : Matrix K) {u v : Vec K} (h : u.length = v.length) :
    a.times (u.plus v) = (a.times u).plus (a.times v) := by
  simp only [times, Vec.plus, List.zipWith_map, List.zipWith_self]
  exact List.map_congr_left fun row _ => Vec.inner_plus h row

/-- The product of a matrix with a zero vector is zero. -/
theorem times_zeros (a : Matrix K) (n : Nat) :
    a.times (Vec.zeros n) = Vec.zeros a.rows.length := by
  simp only [times, Vec.inner_zeros]
  exact List.map_const'

end Matrix

/-- A multiple of the identity as an approximation. A pair with a positive product changes the
multiple so that it fits the pair; any other pair is skipped. -/
structure IdentityMultiple (K : Type) where
  factor : K

instance {K : Type} [Field K] [LinearOrder K] : QuasiNewton K (IdentityMultiple K) where
  kind _ := .bfgs
  subspaceSize _ := 1
  update b s y := if 0 < s.inner y then (true, ⟨y.inner y / s.inner y⟩) else (false, b)
  multiply b v := v.map (b.factor * ·)

end StrategyCoordinator
