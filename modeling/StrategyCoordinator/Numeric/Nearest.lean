import StrategyCoordinator.Numeric.Binary64

/-!
# The nearest double-precision number

A non-negative ratio is rounded in two steps. First the exponent is chosen that leaves a
significand of 53 bits, or the smallest exponent of the format if the ratio is smaller still.
Then the ratio is divided by that power of two and rounded to an integer, ties to even.

The significand and the exponent are put together by addition, so a significand that rounds
up to the next power of two carries into the exponent by itself. A magnitude beyond the
largest finite one is the infinity.
-/

namespace StrategyCoordinator

/-- The integer nearest to a ratio; a tie goes to the even neighbour. -/
def roundHalfEven (num den : Nat) : Nat :=
  let floor := num / den
  let rest := num % den
  if 2 * rest < den then floor
  else if den < 2 * rest then floor + 1
  else floor + floor % 2

namespace Binary64

/-- The ratio after division by a power of two, as a numerator and a denominator. -/
def scaleDown (num den : Nat) (power : Int) : Nat × Nat :=
  (num * Nat.pow 2 (-power).toNat, den * Nat.pow 2 power.toNat)

/-- The greatest power of two that is not above a positive ratio. -/
def binaryOrder (num den : Nat) : Int :=
  let guess : Int := (num.log2 : Int) - den.log2
  let (scaledNum, scaledDen) := scaleDown num den guess
  if scaledDen ≤ scaledNum then guess else guess - 1

/-- The magnitude bits of the number nearest to a ratio. -/
def nearestMagnitude (num den : Nat) : Nat :=
  if num = 0 then 0
  else
    let power := max (binaryOrder num den - 52) (-1074)
    let (scaledNum, scaledDen) := scaleDown num den power
    min ((power + 1074).toNat * leadingBit + roundHalfEven scaledNum scaledDen) infinityMagnitude

/-- The number nearest to a ratio with the given sign. -/
def ofRatio (negative : Bool) (num den : Nat) : Binary64 :=
  ofMagnitude negative (nearestMagnitude num den)

/-- The number nearest to an integer. -/
def ofInt (n : Int) : Binary64 :=
  ofRatio (decide (n < 0)) n.natAbs 1

/-- The number nearest to `mantissa / 10 ^ places`. -/
def ofDecimal (mantissa : Int) (places : Nat) : Binary64 :=
  ofRatio (decide (mantissa < 0)) mantissa.natAbs (Nat.pow 10 places)

end Binary64

end StrategyCoordinator
