import StrategyCoordinator.Numeric.Nearest

/-!
# The arithmetic that models are written in

Vectors, problems and quadratic models use addition, subtraction, multiplication, the larger
and the smaller of two numbers, and two constants. They are stated over any type with these
operations: double-precision numbers when a solver runs, an ordered field when a statement is
about exact arithmetic.
-/

namespace StrategyCoordinator

/-- A number type that vectors, problems and quadratic models can be written in. -/
class Scalar (R : Type) extends Zero R, Add R, Sub R, Mul R, Max R, Min R where
  /-- One half, the weight of midpoints and of quadratic terms. -/
  half : R
  /-- One tenth, the radius of a model that was given none. -/
  tenth : R

instance : Scalar Binary64 where
  half := Binary64.ofDecimal 5 1
  tenth := Binary64.ofDecimal 1 1

end StrategyCoordinator
