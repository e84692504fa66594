import StrategyCoordinator.Coordinator.Solvers

/-!
# One projected gradient step

The elementary interior-point backend starts at the target's starting point. If it was given
a step length it moves once against the gradient, cuts the result to the bounds, and takes
the constraint values there as multipliers; otherwise it stays where it is. The multipliers
of the lower bounds carry its serial number, so a result shows which backend it came from.
-/

namespace StrategyCoordinator

/-- An interior-point backend that takes at most one step. -/
structure ProjectedGradient where
  serial : Nat
  stepLength : Option Binary64
  solution : Option (OptimizedPoint Binary64)

namespace ProjectedGradient

/-- The option that holds the step length. -/
def stepOption : String :=
  "ip_step"

/-- A fresh backend, with the step length that the options hold. -/
def new (serial : Nat) (options : OptionStore) : ProjectedGradient :=
  ⟨serial, (options.getFloat stepOption).toOption, none⟩

/-- A number cut to an interval. -/
def cutTo (bounds : Interval Binary64) (v : Binary64) : Binary64 :=
  if v.numLt bounds.lower then bounds.lower
  else if bounds.upper.numLt v then bounds.upper
  else v

/-- One step against a gradient, cut to the bounds; each variable needs an element of both. -/
def descend? (length : Binary64) :
    Vec Binary64 → Vec Binary64 → List (Interval Binary64) → Option (Vec Binary64)
  | [], _, _ => some []
  | x :: xs, g :: gs, bounds :: rest => do
    let others ← descend? length xs gs rest
    return cutTo bounds (x - length * g) :: others
  | _ :: _, _, _ => none

/-- The primal point and the constraint multipliers that a solve of the target reaches. -/
def reach (stepLength : Option Binary64) (target : Problem Binary64) :
    Evaluation (Vec Binary64 × Vec Binary64) :=
  match stepLength with
  | none => .ok (target.initialPoint, Vec.zeros target.constraintCount)
  | some length => do
    let gradient ← target.gradient target.initialPoint
    let x ← Evaluation.ofShape (descend? length target.initialPoint gradient target.bounds)
    let z ← target.constraints x
    return (x, z)

/-- Solve a target; a failed solve keeps the previous solution. -/
def solve (fails : Bool) (target : Problem Binary64) (ip : ProjectedGradient) :
    ProjectedGradient × Except BackendFailure Unit :=
  if fails then (ip, .error (.message "ip backend diverged"))
  else
    match reach ip.stepLength target with
    | .error failure => (ip, .error (.ofEvaluation failure))
    | .ok (x, z) =>
      let size := target.initialPoint.length
      let multipliers : Multipliers Binary64 :=
        ⟨z, List.replicate size (Binary64.ofInt ip.serial), Vec.zeros size⟩
      ({ ip with solution := some ⟨x, multipliers⟩ }, .ok ())

end ProjectedGradient

end StrategyCoordinator
