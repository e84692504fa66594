import StrategyCoordinator.Model.Quadratic

/-!
# Changes of a model

A model is changed by moving its center, setting its radius, or offering its approximation a
pair. Applying a change always gives a model. Only moving the center can fail, and then the
model stays as it was.
-/

namespace StrategyCoordinator

/-- A change to a model. -/
inductive ModelChange (R : Type)
  | setCenter (x : Vec R)
  | setRadius (radius : R)
  | updateCurvature (s y : Vec R)

namespace ModelChange

variable {R Q : Type} [QuasiNewton R Q]

/-- Apply a change; the answer says whether it took effect, or why it failed. -/
def apply (change : ModelChange R) (m : QuadraticModel R Q) :
    Evaluation Bool × QuadraticModel R Q :=
  match change with
  | .setCenter x =>
    match m.setCenter x with
    | .ok moved => (.ok true, moved)
    | .error failure => (.error failure, m)
  | .setRadius radius => (.ok true, m.setRadius radius)
  | .updateCurvature s y =>
    let (used, updated) := m.updateCurvature s y
    (.ok used, updated)

end ModelChange

end StrategyCoordinator
