import StrategyCoordinator.Coordinator.Solvers

/-!
# A trust-region loop by recentering

The elementary trust-region backend repeats one iteration a fixed number of times: center the
model at its starting point and have it solved. With more than one iteration it also learns
from the solution, by offering the approximation the step and the change of the gradient, and
moves the center to the solution. Its iterate is the solution shifted by a constant, which
tells it from the inner backend's. The first failure ends the run and keeps the last iterate.
-/

namespace StrategyCoordinator

/-- A trust-region backend that recenters its model. -/
structure Recentering where
  radius : Option Binary64
  iterations : Int
  iterate : Option (Vec Binary64)

namespace Recentering

/-- The option that holds the radius of the trust region. -/
def radiusOption : String :=
  "tr_radius"

/-- The option that holds the number of iterations. -/
def iterationsOption : String :=
  "tr_iters"

/-- A fresh backend, with the radius and the number of iterations that the options hold. -/
def new (options : OptionStore) : Recentering :=
  { radius := (options.getFloat radiusOption).toOption
    iterations := ((options.getInt iterationsOption).toOption.map Int64.toInt).getD 1
    iterate := none }

/-- A solution shifted by the constant. -/
def shifted (x : Vec Binary64) : Vec Binary64 :=
  x.map (· + Binary64.ofInt 100)

/-- The backend with its iterate taken from the inner backend's result. -/
def record (tr : Recentering) (point : Option (OptimizedPoint Binary64)) : Recentering :=
  { tr with iterate := point.map fun point => shifted point.x }

/-- The runs of this backend on models with approximations of type `Q`. -/
abbrev Run (Q : Type) :=
  TrustRegionRun Binary64 Q Recentering

variable {Q : Type}

/-- Offer the approximation the step between two points and the change of the gradient of
the model's problem over it. -/
def learn (tr : Recentering) (start solution : Vec Binary64) (next : Run Q) : Run Q :=
  .inspect fun model =>
    let pair : Evaluation (Vec Binary64 × Vec Binary64) := do
      let s ← Evaluation.ofShape (Vec.sub? solution start)
      let after ← model.source.problem.gradient solution
      let before ← model.source.problem.gradient start
      let y ← Evaluation.ofShape (Vec.sub? after before)
      return (s, y)
    match pair with
    | .error failure => .finish tr (.error (.ofEvaluation failure))
    | .ok (s, y) =>
      .updateCurvature s y fun _ =>
        .setCenter solution fun
          | .error failure => .finish tr (.error (.ofEvaluation failure))
          | .ok () => next

/-- Repeat the iteration, with the starting point taken from the model as it then is. -/
def iterateRun (tr : Recentering) : Nat → Run Q
  | 0 => .finish tr (.ok ())
  | count + 1 =>
    .inspect fun model =>
      .setCenter model.initialPoint fun
        | .error failure => .finish tr (.error (.ofEvaluation failure))
        | .ok () =>
          .solve none fun outcome point =>
            match outcome, point with
            | .error failure, _ => .finish tr (.error failure)
            | .ok (), none => iterateRun (tr.record none) count
            | .ok (), some point =>
              let next := iterateRun (tr.record (some point)) count
              if 1 < tr.iterations then tr.learn model.initialPoint point.x next else next

/-- A single solve of the model as it is. -/
def solveOnce (tr : Recentering) : Run Q :=
  .solve none fun outcome point =>
    match outcome with
    | .error failure => .finish tr (.error failure)
    | .ok () => .finish (tr.record point) (.ok ())

/-- The run of the backend. -/
def run (fails : Bool) (tr : Recentering) : Run Q :=
  if fails then .finish tr (.error (.message "tr backend diverged"))
  else
    let iterations : Run Q :=
      if tr.iterations = 0 then tr.solveOnce else tr.iterateRun tr.iterations.toNat
    match tr.radius with
    | none => iterations
    | some radius => .setRadius radius iterations

end Recentering

end StrategyCoordinator
