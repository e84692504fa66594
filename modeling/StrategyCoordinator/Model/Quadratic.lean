import StrategyCoordinator.Model.QuasiNewton
import StrategyCoordinator.Problem.Basic

/-!
# Quadratic trust-region models

A model approximates a problem around a center. With the step `d` from the center to a point,
the model's objective is `f + g · d + ½ d · B d` for the objective `f` and gradient `g` at the
center and a curvature approximation `B`, its constraints are `c + A d` for the constraint
values `c` and Jacobian `A` at the center, and its bounds are the problem's bounds cut to the
box of the trust-region radius around the center.

The data at the center is replaced as a whole or not at all. A model without a center has the
bounds and the starting point of its problem and reports an error on every evaluation.
-/

namespace StrategyCoordinator

/-- Which object a model's problem is: the one being optimized, or one that came with the
approximation of the given serial number. -/
inductive ProblemOrigin
  | optimized
  | suppliedWith (serial : Nat)
deriving DecidableEq

/-- A problem as an object that can be told from others. -/
structure ProblemObject (R : Type) where
  origin : ProblemOrigin
  problem : Problem R

/-- The values of a problem at the center of its model. -/
structure ModelCenter (R : Type) where
  x : Vec R
  objective : R
  gradient : Vec R
  constraints : Vec R
  jacobian : Matrix R

/-- A quadratic model of a problem within a trust region. -/
structure QuadraticModel (R Q : Type) where
  source : ProblemObject R
  curvature : Q
  center : Option (ModelCenter R)
  radius : R

/-- The values of a problem at a point; the first evaluation that fails stops. -/
def Problem.evaluateAt {R : Type} (p : Problem R) (x : Vec R) : Evaluation (ModelCenter R) := do
  let objective ← p.objective x
  let gradient ← p.gradient x
  let constraints ← p.constraints x
  let jacobian ← p.constraintJacobian x
  return { x, objective, gradient, constraints, jacobian }

/-- The error for a point with the wrong number of variables. -/
def EvaluationError.wrongSize (expected found : Nat) : EvaluationError :=
  .invalidInput ("expected " ++ toString expected ++ " variables, got " ++ toString found)

/-- The error for an evaluation of a model that has no center. -/
def EvaluationError.noCenter : EvaluationError :=
  .invalidInput "the trust-region model has no center"

/-- Each row of bounds cut to the radius around its element of the center. -/
def clipBounds {R : Type} [Scalar R] (radius : R) : List (Interval R) → Vec R → List (Interval R)
  | row :: rows, center :: rest => row.clip center radius :: clipBounds radius rows rest
  | rows, _ => rows

namespace QuadraticModel

variable {R Q : Type}

/-- Move the center to a point, with the values of the problem there. -/
def setCenter (m : QuadraticModel R Q) (x : Vec R) : Evaluation (QuadraticModel R Q) := do
  if x.length ≠ m.source.problem.variableCount then
    Evaluation.report (.wrongSize m.source.problem.variableCount x.length)
  else
    let center ← m.source.problem.evaluateAt x
    return { m with center := some center }

/-- Set the radius of the trust region. -/
def setRadius (m : QuadraticModel R Q) (radius : R) : QuadraticModel R Q :=
  { m with radius }

/-- The starting point of the model: its center if it has one. -/
def initialPoint (m : QuadraticModel R Q) : Vec R :=
  match m.center with
  | none => m.source.problem.initialPoint
  | some center => center.x

section Arithmetic

variable [Scalar R]

/-- The model of a problem with a fresh approximation: no center and the default radius. -/
def new (source : ProblemObject R) (curvature : Q) : QuadraticModel R Q :=
  ⟨source, curvature, none, Scalar.tenth⟩

/-- The bounds of the model. -/
def bounds (m : QuadraticModel R Q) : List (Interval R) :=
  match m.center with
  | none => m.source.problem.bounds
  | some center => clipBounds m.radius m.source.problem.bounds center.x

/-- The center and the step from it to a point. -/
def step (m : QuadraticModel R Q) (x : Vec R) : Evaluation (ModelCenter R × Vec R) :=
  match m.center with
  | none => .report .noCenter
  | some center =>
    if x.length = center.x.length then .ok (center, x.zipWith (· - ·) center.x)
    else .report (.wrongSize center.x.length x.length)

/-- The model's constraint values at a point. -/
def constraints (m : QuadraticModel R Q) (x : Vec R) : Evaluation (Vec R) := do
  let (center, d) ← m.step x
  let change ← Evaluation.ofShape (center.jacobian.mulVec? d)
  Evaluation.ofShape (Vec.add? center.constraints change)

/-- The Jacobian of the model's constraints at a point. -/
def constraintJacobian (m : QuadraticModel R Q) (x : Vec R) : Evaluation (Matrix R) := do
  let (center, _) ← m.step x
  return center.jacobian

end Arithmetic

section Curvature

variable [QuasiNewton R Q]

/-- Offer the approximation a pair of a step and a gradient change. -/
def updateCurvature (m : QuadraticModel R Q) (s y : Vec R) : Bool × QuadraticModel R Q :=
  let (used, curvature) := QuasiNewton.update m.curvature s y
  (used, { m with curvature })

variable [Scalar R]

/-- The model's objective at a point. -/
def objective (m : QuadraticModel R Q) (x : Vec R) : Evaluation R := do
  let (center, d) ← m.step x
  let slope ← Evaluation.ofShape (Vec.dot? center.gradient d)
  let bend ← Evaluation.ofShape (Vec.dot? d (QuasiNewton.multiply m.curvature d))
  return center.objective + slope + Scalar.half * bend

/-- The gradient of the model's objective at a point. -/
def gradient (m : QuadraticModel R Q) (x : Vec R) : Evaluation (Vec R) := do
  let (center, d) ← m.step x
  Evaluation.ofShape (Vec.add? center.gradient (QuasiNewton.multiply m.curvature d))

/-- The model as a problem of its own. -/
def toProblem (m : QuadraticModel R Q) : Problem R where
  bounds := m.bounds
  variableCount := m.source.problem.variableCount
  constraintCount := m.source.problem.constraintCount
  initialPoint := m.initialPoint
  objective := m.objective
  gradient := m.gradient
  constraints := m.constraints
  constraintJacobian := m.constraintJacobian

end Curvature

end QuadraticModel

end StrategyCoordinator
