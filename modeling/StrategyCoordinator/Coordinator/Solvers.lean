import StrategyCoordinator.Coordinator.Configuration
import StrategyCoordinator.Model.Quadratic
import StrategyCoordinator.Problem.Point

/-!
# Solvers as the coordinator sees them

A solver kit makes the backends and the curvature approximations. What they hold is their own
matter; the coordinator builds them, runs them, asks for their results and discards them.

An interior-point run works on one target, which is lent to it for the run. The outer methods
work on objects that they share with others, so a run of theirs is described by what it asks
for, step by step: to look at the model or change it, or to have the interior-point backend
solve its target as it then is. Each request carries what the run does with the answer, and
the coordinator carries the requests out. A run therefore reaches nothing that it did not ask
for.
-/

namespace StrategyCoordinator

/-- What an interior-point backend solves, by name. -/
inductive TargetKind
  | problem
  | subproblem
  | surrogate
deriving DecidableEq

namespace TargetKind

/-- The name of a kind of target. -/
def text : TargetKind → String
  | .problem => "problem"
  | .subproblem => "trust-region subproblem"
  | .surrogate => "MMA surrogate"

end TargetKind

/-- A run of a trust-region backend of type `T` on a model with approximations of type `Q`. -/
inductive TrustRegionRun (R Q T : Type)
  /-- The run is over. -/
  | finish (backend : T) (outcome : Except BackendFailure Unit)
  /-- Look at the model. -/
  | inspect (next : QuadraticModel R Q → TrustRegionRun R Q T)
  /-- Move the center of the model. -/
  | setCenter (x : Vec R) (next : Evaluation Unit → TrustRegionRun R Q T)
  /-- Set the radius of the model. -/
  | setRadius (radius : R) (next : TrustRegionRun R Q T)
  /-- Offer a pair to the approximation of the model. -/
  | updateCurvature (s y : Vec R) (next : Bool → TrustRegionRun R Q T)
  /-- Have the interior-point backend solve the model, and look at its result. -/
  | solve (checkpoint : Option String)
      (next : Except BackendFailure Unit → Option (OptimizedPoint R) → TrustRegionRun R Q T)

/-- A run of a moving-asymptotes backend of type `M`. -/
inductive AsymptotesRun (R M : Type)
  /-- The run is over. -/
  | finish (backend : M) (outcome : Except BackendFailure Unit)
  /-- Replace the surrogate. -/
  | setSurrogate (surrogate : Problem R) (next : AsymptotesRun R M)
  /-- Have the interior-point backend solve the surrogate, and look at its result. -/
  | solve (checkpoint : Option String)
      (next : Except BackendFailure Unit → Option (OptimizedPoint R) → AsymptotesRun R M)

/-- The backends and approximations that the coordinator works with.

Everything made is given a serial number. A run may depend on the condition under which it is
started, which stands for all that can make the same backend succeed at one time and fail at
another. -/
structure SolverKit (R : Type) where
  Curvature : Type
  InteriorPoint : Type
  TrustRegion : Type
  Asymptotes : Type
  Condition : Type
  quasiNewton : QuasiNewton R Curvature
  /-- Register the options that the backends read. -/
  registerOptions : OptionRegistrar
  /-- A fresh curvature approximation for a problem. -/
  newCurvature (serial : Nat) (kind : QuasiNewtonKind) (problem : Problem R) (size : Nat) :
    Curvature
  /-- A fresh interior-point backend. -/
  newInteriorPoint (serial : Nat) (target : TargetKind) (options : OptionStore) : InteriorPoint
  /-- A fresh trust-region backend. -/
  newTrustRegion (serial : Nat) (options : OptionStore) : TrustRegion
  /-- A fresh moving-asymptotes backend for a problem, with its first surrogate. -/
  newAsymptotes (serial : Nat) (problem : Problem R) (options : OptionStore) :
    Asymptotes × Problem R
  /-- Solve a target, writing checkpoints if a file is given. -/
  solveTarget (condition : Condition) (checkpoint : Option String) (target : Problem R)
    (backend : InteriorPoint) : InteriorPoint × Except BackendFailure Unit
  /-- The result of the last solve. -/
  solution : InteriorPoint → Option (OptimizedPoint R)
  /-- The multipliers of the last solve. -/
  multipliers : InteriorPoint → Option (Multipliers R) :=
    fun backend => (solution backend).map OptimizedPoint.multipliers
  /-- The run of a trust-region backend. -/
  runTrustRegion (condition : Condition) (backend : TrustRegion) :
    TrustRegionRun R Curvature TrustRegion
  /-- The primal iterate of the last trust-region run. -/
  trustRegionIterate : TrustRegion → Option (Vec R)
  /-- The run of a moving-asymptotes backend. -/
  runAsymptotes (condition : Condition) (backend : Asymptotes) : AsymptotesRun R Asymptotes
  /-- The primal iterate of the last moving-asymptotes run. -/
  asymptotesIterate : Asymptotes → Option (Vec R)

instance {R : Type} (kit : SolverKit R) : QuasiNewton R kit.Curvature :=
  kit.quasiNewton

end StrategyCoordinator
