import StrategyCoordinator.Problem.Basic

/-!
# Separable quadratic problems

A separable quadratic problem is given by numbers: an objective `c + ∑ (gᵢ xᵢ + qᵢ xᵢ²)`, its
gradient, affine constraints and a constant Jacobian. The derivatives are given on their own,
so they need not belong to the functions. A part that is not given is left to the problem's
bounds. Any part can be made to fail, always or where the first variable is above a limit.
-/

namespace StrategyCoordinator

/-- When an evaluation fails, and with which error. -/
structure FailureRule where
  error : EvaluationError
  /-- The limit that the first variable must exceed; without one the evaluation always fails. -/
  above : Option Binary64

namespace FailureRule

/-- Whether an evaluation at a point fails. -/
def applies (rule : FailureRule) (x : Vec Binary64) : Bool :=
  match rule.above, x with
  | none, _ => true
  | some _, [] => false
  | some limit, first :: _ => limit.numLt first

end FailureRule

/-- One part of a problem: how it is computed and when it fails. -/
structure ProblemPart (F : Type) where
  failure : Option FailureRule
  formula : F

namespace ProblemPart

/-- Evaluate a part at a point. -/
def evaluate {F α : Type} (part : ProblemPart F) (value : F → Vec Binary64 → α)
    (x : Vec Binary64) : Evaluation α :=
  match part.failure with
  | some rule =>
    if rule.applies x then .report rule.error else .ok (value part.formula x)
  | none => .ok (value part.formula x)

end ProblemPart

/-- A separable quadratic function by its coefficients. -/
structure SeparableQuadratic where
  constant : Binary64
  linear : Vec Binary64
  quadratic : Vec Binary64

namespace SeparableQuadratic

/-- Add the terms of all variables to a total, the linear term of each one first. -/
def addTerms (total : Binary64) : Vec Binary64 → Vec Binary64 → Vec Binary64 → Binary64
  | g :: gs, q :: qs, x :: xs => addTerms (total + g * x + q * x * x) gs qs xs
  | _, _, _ => total

/-- The value of the function at a point. -/
def value (f : SeparableQuadratic) (x : Vec Binary64) : Binary64 :=
  addTerms f.constant f.linear f.quadratic x

/-- The derivatives of the terms at a point. -/
def slopes : Vec Binary64 → Vec Binary64 → Vec Binary64 → Vec Binary64
  | g :: gs, q :: qs, x :: xs => (g + Binary64.ofInt 2 * q * x) :: slopes gs qs xs
  | _, _, _ => []

end SeparableQuadratic

/-- How a gradient is computed. -/
inductive GradientFormula
  | separable (linear quadratic : Vec Binary64)
  | constant (value : Vec Binary64)

namespace GradientFormula

/-- The gradient at a point. -/
def value : GradientFormula → Vec Binary64 → Vec Binary64
  | .separable linear quadratic, x => SeparableQuadratic.slopes linear quadratic x
  | .constant value, _ => value

end GradientFormula

/-- How constraint values are computed. -/
inductive ConstraintFormula
  | affine (offset : Vec Binary64) (rows : List (Vec Binary64))
  | constant (value : Vec Binary64)

namespace ConstraintFormula

/-- Each offset with the products of its row added to it; a missing row adds nothing. -/
def affineValue (x : Vec Binary64) : Vec Binary64 → List (Vec Binary64) → Vec Binary64
  | [], _ => []
  | b :: bs, [] => b :: affineValue x bs []
  | b :: bs, row :: rows => Vec.accumulateProducts b row x :: affineValue x bs rows

/-- The constraint values at a point. -/
def value : ConstraintFormula → Vec Binary64 → Vec Binary64
  | .affine offset rows, x => affineValue x offset rows
  | .constant value, _ => value

end ConstraintFormula

/-- A problem given by numbers. -/
structure SeparableProblem where
  bounds : List (Interval Binary64)
  constraintCount : Nat
  start : Option (Vec Binary64)
  objective : Option (ProblemPart SeparableQuadratic)
  gradient : Option (ProblemPart GradientFormula)
  constraints : Option (ProblemPart ConstraintFormula)
  jacobian : Option (ProblemPart (Matrix Binary64))

namespace SeparableProblem

/-- The evaluation by a part that is given, or else by the bounds alone. -/
def evaluator {F α : Type} (part : Option (ProblemPart F)) (value : F → Vec Binary64 → α)
    (fallback : Vec Binary64 → Evaluation α) : Vec Binary64 → Evaluation α :=
  match part with
  | none => fallback
  | some part => part.evaluate value

/-- The problem that the numbers stand for. -/
def toProblem (data : SeparableProblem) : Problem Binary64 :=
  let base := Problem.ofBounds data.bounds data.constraintCount
  { base with
    initialPoint := data.start.getD base.initialPoint
    objective := evaluator data.objective SeparableQuadratic.value base.objective
    gradient := evaluator data.gradient GradientFormula.value base.gradient
    constraints := evaluator data.constraints ConstraintFormula.value base.constraints
    constraintJacobian :=
      evaluator data.jacobian (fun matrix _ => matrix) base.constraintJacobian }

end SeparableProblem

end StrategyCoordinator
