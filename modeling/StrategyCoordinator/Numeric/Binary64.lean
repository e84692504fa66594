/-!
# Double-precision numbers by their bits

A number is its 64 interchange bits, so two numbers are equal as values of this type exactly
when they are the same bit pattern. Comparison is a separate matter: it reads the bits as a
sign and a magnitude, ranks them on the integer line, and answers false as soon as one side
is not a number. Both zeros have rank zero, so they compare equal.

The arithmetic operations are those of the machine, reached through the bits.
-/

namespace StrategyCoordinator

/-- A double-precision number, given by its sign bit, eleven exponent bits and 52 fraction bits. -/
structure Binary64 where
  bits : UInt64
deriving DecidableEq

namespace Binary64

/-- The weight of the sign bit. -/
def signBit : Nat :=
  0x8000000000000000

/-- The weight of the lowest exponent bit, which is that of a normal significand's leading bit. -/
def leadingBit : Nat :=
  0x10000000000000

/-- The bits below the sign bit; they order the numbers of one sign. -/
def magnitude (x : Binary64) : Nat :=
  x.bits.toNat % signBit

/-- Whether the sign bit is set. -/
def isNegative (x : Binary64) : Bool :=
  decide (signBit ≤ x.bits.toNat)

/-- The magnitude of both infinities; every larger magnitude is not a number. -/
def infinityMagnitude : Nat :=
  0x7ff0000000000000

/-- The number with the given sign and magnitude. -/
def ofMagnitude (negative : Bool) (magnitude : Nat) : Binary64 :=
  ⟨UInt64.ofNat ((if negative then signBit else 0) + magnitude)⟩

/-- The quiet pattern that stands for the result of an invalid operation. -/
def nan : Binary64 :=
  ⟨0x7ff8000000000000⟩

/-- The infinity of the given sign. -/
def infinity (negative : Bool) : Binary64 :=
  ofMagnitude negative infinityMagnitude

/-- Whether the pattern stands for no number. -/
def isNaN (x : Binary64) : Bool :=
  decide (infinityMagnitude < x.magnitude)

/-- Whether the pattern is one of the two infinities. -/
def isInfinite (x : Binary64) : Bool :=
  x.magnitude == infinityMagnitude

/-- The integer significand of a finite number, subnormal numbers included. -/
def significand (x : Binary64) : Nat :=
  if x.magnitude < leadingBit then x.magnitude else leadingBit + x.magnitude % leadingBit

/-- The power of two that scales the significand of a finite number. -/
def exponent (x : Binary64) : Int :=
  if x.magnitude < leadingBit then -1074 else (x.magnitude / leadingBit : Nat) - 1075

/-- The position on the signed integer line; both zeros stand at zero. -/
def rank (x : Binary64) : Int :=
  if x.isNegative then -(x.magnitude : Int) else x.magnitude

/-- Numeric equality: false when a side is not a number, true between the two zeros. -/
def numEq (x y : Binary64) : Bool :=
  !x.isNaN && !y.isNaN && x.rank == y.rank

/-- Numeric order: false when a side is not a number. -/
def numLe (x y : Binary64) : Bool :=
  !x.isNaN && !y.isNaN && decide (x.rank ≤ y.rank)

/-- Strict numeric order: false when a side is not a number. -/
def numLt (x y : Binary64) : Bool :=
  !x.isNaN && !y.isNaN && decide (x.rank < y.rank)

/-- The larger number; a side that is not a number is ignored. -/
def larger (x y : Binary64) : Binary64 :=
  if x.isNaN then y else if x.numLt y then y else x

/-- The smaller number; a side that is not a number is ignored. -/
def smaller (x y : Binary64) : Binary64 :=
  if x.isNaN then y else if y.numLt x then y else x

/-- The machine number with the same bits. -/
def toFloat (x : Binary64) : Float :=
  Float.ofBits x.bits

/-- The bits of a machine number. -/
def ofFloat (f : Float) : Binary64 :=
  ⟨f.toBits⟩

instance : Zero Binary64 := ⟨⟨0⟩⟩
instance : Add Binary64 := ⟨fun x y => ofFloat (x.toFloat + y.toFloat)⟩
instance : Sub Binary64 := ⟨fun x y => ofFloat (x.toFloat - y.toFloat)⟩
instance : Mul Binary64 := ⟨fun x y => ofFloat (x.toFloat * y.toFloat)⟩
instance : Div Binary64 := ⟨fun x y => ofFloat (x.toFloat / y.toFloat)⟩
instance : Max Binary64 := ⟨larger⟩
instance : Min Binary64 := ⟨smaller⟩

/-- A number equals itself unless it is not a number. -/
theorem numEq_self (x : Binary64) : x.numEq x = !x.isNaN := by
  simp [numEq]

/-- Numeric order is reflexive away from the patterns that are not numbers. -/
theorem numLe_self (x : Binary64) : x.numLe x = !x.isNaN := by
  simp [numLe]

end Binary64

end StrategyCoordinator
