import StrategyCoordinator.Numeric.Vector

/-!
# Optimization problems

A problem has bounds for its variables, a starting point, an objective to minimize, and
inequality constraints that ask for non-negative values, with the derivatives of both. Only
the bounds are always there. What a problem leaves out is given by its bounds and the number
of its constraints: the starting point is the middle of the bounds, an unconstrained problem
has no constraint values, and every other evaluation reports that it is not implemented.

An evaluation fails either by reporting an error or because the shapes of the vectors in it
do not combine.
-/

namespace StrategyCoordinator

/-- The error that an evaluation reports. -/
inductive EvaluationError
  | invalidInput (reason : String)
  | objectiveNotImplemented
  | gradientNotImplemented
  | constraintsNotImplemented
  | constraintJacobianNotImplemented
  | objectiveFailed
  | gradientFailed
  | constraintsFailed
deriving DecidableEq

namespace EvaluationError

/-- The message of an error. -/
def message : EvaluationError → String
  | .invalidInput reason => "Invalid input: " ++ reason ++ "."
  | .objectiveNotImplemented =>
    "Objective function not implemented and needed by the backend."
  | .gradientNotImplemented => "Gradient not implemented and needed by the backend."
  | .constraintsNotImplemented => "Constraints not implemented and needed by the backend."
  | .constraintJacobianNotImplemented =>
    "Constraint Jacobian not implemented and needed by the backend."
  | .objectiveFailed => "Objective function evaluation failed."
  | .gradientFailed => "Gradient evaluation failed."
  | .constraintsFailed => "Constraint evaluation failed."

end EvaluationError

/-- Why an evaluation has no result. -/
inductive EvaluationFailure
  | reported (error : EvaluationError)
  | shapeMismatch
deriving DecidableEq

/-- The result of an evaluation. -/
abbrev Evaluation (α : Type) :=
  Except EvaluationFailure α

namespace Evaluation

/-- The evaluation that reports an error. -/
def report {α : Type} (error : EvaluationError) : Evaluation α :=
  .error (.reported error)

/-- The result of an operation on vectors, whose shapes may not combine. -/
def ofShape {α : Type} : Option α → Evaluation α
  | some value => .ok value
  | none => .error .shapeMismatch

end Evaluation

/-- The bounds of one variable. -/
structure Interval (R : Type) where
  lower : R
  upper : R
deriving DecidableEq

namespace Interval

variable {R : Type} [Scalar R]

/-- The middle of an interval. -/
def midpoint (i : Interval R) : R :=
  Scalar.half * (i.lower + i.upper)

/-- The part of an interval that is at most `radius` away from `center`. -/
def clip (i : Interval R) (center radius : R) : Interval R :=
  ⟨max i.lower (center - radius), min i.upper (center + radius)⟩

end Interval

/-- An optimization problem. -/
structure Problem (R : Type) where
  bounds : List (Interval R)
  variableCount : Nat
  constraintCount : Nat
  initialPoint : Vec R
  objective : Vec R → Evaluation R
  gradient : Vec R → Evaluation (Vec R)
  constraints : Vec R → Evaluation (Vec R)
  constraintJacobian : Vec R → Evaluation (Matrix R)

namespace Problem

variable {R : Type}

/-- The problem of which only the bounds and the number of constraints are given. -/
def ofBounds [Scalar R] (bounds : List (Interval R)) (constraintCount : Nat) : Problem R where
  bounds := bounds
  variableCount := bounds.length
  constraintCount := constraintCount
  initialPoint := bounds.map Interval.midpoint
  objective _ := .report .objectiveNotImplemented
  gradient _ := .report .gradientNotImplemented
  constraints _ := if constraintCount = 0 then .ok [] else .report .constraintsNotImplemented
  constraintJacobian _ :=
    if constraintCount = 0 then .ok (Matrix.empty bounds.length)
    else .report .constraintJacobianNotImplemented

/-- Why a cost function has no value: a message, or shapes that do not combine. -/
inductive CostFailure
  | message (text : String)
  | shapeMismatch
deriving DecidableEq

/-- An evaluation as a cost function shows it: an error is known by its message alone. -/
def asCost {α : Type} : Evaluation α → Except CostFailure α
  | .ok value => .ok value
  | .error (.reported error) => .error (.message error.message)
  | .error .shapeMismatch => .error .shapeMismatch

/-- The objective as a cost function. -/
def cost (p : Problem R) (x : Vec R) : Except CostFailure R :=
  asCost (p.objective x)

/-- The gradient of the cost function. -/
def costGradient (p : Problem R) (x : Vec R) : Except CostFailure (Vec R) :=
  asCost (p.gradient x)

end Problem

end StrategyCoordinator
