import StrategyCoordinator.Numeric.Nearest

/-!
# Shortest decimal text

A finite number is written with the fewest decimal digits that read back to it. The reals
that round to a number form an interval around it, whose ends belong to it exactly when the
significand is even. The search walks from coarse decimal grids to fine ones and stops at the
first grid with a point in the interval: such a point can only be one of the value's two
neighbours on the grid. Of two neighbours in the interval the nearer one is taken, and the
upper one on a tie.

Two layouts share these digits: positional notation without an exponent, and scientific
notation with one digit before the point.
-/

namespace StrategyCoordinator

/-- The decimal digits of a number without a leading zero. -/
def decimalDigits (n : Nat) : List Char :=
  Nat.toDigits 10 n

/-- A decimal significand and the power of ten that scales it. -/
structure Decimal where
  digits : Nat
  power : Int
deriving DecidableEq

namespace Decimal

/-- The same value with the trailing zeros of the significand moved into the power. -/
def reduce (d : Decimal) : Decimal :=
  if _h : d.digits = 0 then d
  else if d.digits % 10 = 0 then reduce ⟨d.digits / 10, d.power + 1⟩ else d
termination_by d.digits
decreasing_by omega

end Decimal

namespace Binary64

/-- The reals that round to a positive number, as quarters of `unit / scale`. -/
structure RoundingInterval where
  lower : Nat
  value : Nat
  upper : Nat
  scale : Nat
  closed : Bool

/-- The interval of a positive finite number.

Below a power of two the numbers lie twice as dense, so the lower end is nearer there. -/
def roundingInterval (x : Binary64) : RoundingInterval :=
  let unit := Nat.pow 2 x.exponent.toNat
  let lowerGap := if x.significand = leadingBit ∧ -1074 < x.exponent then 1 else 2
  { lower := (4 * x.significand - lowerGap) * unit
    value := 4 * x.significand * unit
    upper := (4 * x.significand + 2) * unit
    scale := 4 * Nat.pow 2 (-x.exponent).toNat
    closed := x.significand % 2 == 0 }

namespace RoundingInterval

/-- Whether the reals between `low / den` and `high / den` all belong to the interval's side. -/
def reaches (closed : Bool) (low high : Nat) : Bool :=
  if closed then decide (low ≤ high) else decide (low < high)

/-- The point of the decimal grid with step `10 ^ power` that the interval selects, if any. -/
def gridPoint? (i : RoundingInterval) (power : Int) : Option Nat :=
  let up := Nat.pow 10 (-power).toNat
  let step := i.scale * Nat.pow 10 power.toNat
  let below := i.value * up / step
  let belowFits := reaches i.closed (i.lower * up) (below * step)
  let aboveFits := reaches i.closed ((below + 1) * step) (i.upper * up)
  let rest := i.value * up - below * step
  if belowFits && (!aboveFits || decide (2 * rest < step)) then some below
  else if aboveFits then some (below + 1)
  else none

/-- The power of ten of the leading digit of the value. -/
def decimalOrder (i : RoundingInterval) : Int :=
  let guess : Int := ((decimalDigits i.value).length : Int) - (decimalDigits i.scale).length
  if i.scale * Nat.pow 10 guess.toNat ≤ i.value * Nat.pow 10 (-guess).toNat then guess
  else guess - 1

/-- The first grid point from the grid of step `10 ^ power` on, refining up to `fuel` times. -/
def search (i : RoundingInterval) (power : Int) : Nat → Decimal
  | 0 =>
    ⟨i.value * Nat.pow 10 (-power).toNat / (i.scale * Nat.pow 10 power.toNat), power⟩
  | fuel + 1 =>
    match i.gridPoint? power with
    | some point => ⟨point, power⟩
    | none => search i (power - 1) fuel

end RoundingInterval

/-- The shortest decimal that reads back to a positive finite number.

Seventeen digits always suffice, so the search needs no more refinements than that. -/
def shortestDecimal (x : Binary64) : Decimal :=
  let interval := x.roundingInterval
  (interval.search interval.decimalOrder 17).reduce

/-- The text of a number, given the layout of a positive finite one and the text of zero. -/
def textWith (zero : List Char) (layout : Decimal → List Char) (x : Binary64) : List Char :=
  if x.isNaN then ['N', 'a', 'N']
  else
    (if x.isNegative then ['-'] else []) ++
      if x.isInfinite then ['i', 'n', 'f']
      else if x.magnitude = 0 then zero
      else layout x.shortestDecimal

/-- Positional layout: every digit is written, and there is never an exponent. -/
def positionalLayout (d : Decimal) : List Char :=
  let digits := decimalDigits d.digits
  let whole : Int := digits.length + d.power
  if 0 ≤ d.power then digits ++ List.replicate d.power.toNat '0'
  else if 0 < whole then digits.take whole.toNat ++ '.' :: digits.drop whole.toNat
  else '0' :: '.' :: (List.replicate (-whole).toNat '0' ++ digits)

/-- Scientific layout: one digit before the point, the others after it, and the exponent. -/
def scientificLayout (d : Decimal) : List Char :=
  let digits := decimalDigits d.digits
  let order : Int := digits.length - 1 + d.power
  let exponentText := 'e' ::
    (if order < 0 then '-' :: decimalDigits order.natAbs else decimalDigits order.natAbs)
  match digits with
  | [] => exponentText
  | [digit] => digit :: exponentText
  | digit :: rest => digit :: '.' :: (rest ++ exponentText)

/-- Positional text, as error messages show numbers. -/
def positionalText (x : Binary64) : String :=
  String.ofList (x.textWith ['0'] positionalLayout)

/-- Scientific text, as option values are shown. -/
def scientificText (x : Binary64) : String :=
  String.ofList (x.textWith ['0', 'e', '0'] scientificLayout)

end Binary64

end StrategyCoordinator
