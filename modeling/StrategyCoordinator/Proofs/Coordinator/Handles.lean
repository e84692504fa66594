import StrategyCoordinator.Proofs.Coordinator.StepEvents

/-!
# The coordinator's own handle and its options

Only a caller replaces the options. The coordinator's own handle is put in place by a caller, or
given up by one, and otherwise it changes in one way only: a call of the trust-region strategy
that passes the checks of the configuration takes a fresh handle if there is none.
-/

namespace StrategyCoordinator

variable {R : Type} {kit : SolverKit R}

namespace Session

/-- Letting go of a model leaves the own handle and the options. -/
theorem letGo_keeps (s : Session kit) (handle : Option Nat) :
    (s.letGo handle).subproblem = s.subproblem ∧ (s.letGo handle).options = s.options := by
  rw [letGo_eq]
  exact ⟨rfl, rfl⟩

/-- The handle that was put in place is the own one, and the options are as before. -/
theorem replaceHandle_eq (s : Session kit) (handle : Option Nat) :
    (s.replaceHandle handle).subproblem = handle ∧
      (s.replaceHandle handle).options = s.options :=
  letGo_keeps { s with subproblem := handle } s.subproblem

/-- After a model was put in place it is the coordinator's, and the options are as before. -/
theorem setSubproblem_eq (s : Session kit) (handle : Nat) :
    (s.setSubproblem handle).subproblem = some handle ∧
      (s.setSubproblem handle).options = s.options := by
  unfold setSubproblem
  split
  · exact replaceHandle_eq _ _
  · exact replaceHandle_eq _ _

/-- After the model was given up there is none, and the options are as before. -/
theorem clearSubproblem_eq (s : Session kit) :
    s.clearSubproblem.subproblem = none ∧ s.clearSubproblem.options = s.options :=
  replaceHandle_eq _ _

/-- Keeping a handle under a name leaves the own one and the options. -/
theorem hold_keeps (s : Session kit) (name : String) :
    (s.hold name).2.subproblem = s.subproblem ∧ (s.hold name).2.options = s.options := by
  unfold hold
  split
  · exact ⟨rfl, rfl⟩
  · exact letGo_keeps _ _

/-- Letting go of a kept handle leaves the own one and the options. -/
theorem release_keeps (s : Session kit) (name : String) :
    (s.release name).2.subproblem = s.subproblem ∧ (s.release name).2.options = s.options := by
  unfold release
  split
  · exact ⟨rfl, rfl⟩
  · exact letGo_keeps _ _

/-- Changing a model leaves the own handle and the options. -/
theorem changeThrough_keeps (s : Session kit) (handle : Option Nat) (change : ModelChange R) :
    (s.changeThrough handle change).2.subproblem = s.subproblem ∧
      (s.changeThrough handle change).2.options = s.options := by
  unfold changeThrough
  split
  · exact ⟨rfl, rfl⟩
  · split
    · exact ⟨rfl, rfl⟩
    · exact ⟨rfl, rfl⟩

/-- The model of a kept handle is put in place if there is one, and the options are as before. -/
theorem setHeldSubproblem_eq (s : Session kit) (name : String) :
    (s.setHeldSubproblem name).subproblem = ((s.held.find? name).map some).getD s.subproblem ∧
      (s.setHeldSubproblem name).options = s.options := by
  unfold setHeldSubproblem
  cases s.held.find? name with
  | none => exact ⟨rfl, rfl⟩
  | some handle => exact s.setSubproblem_eq handle

variable [Scalar R]

/-- A model that was just built is put in place, and the options are as before. -/
theorem injectSubproblem_eq (s : Session kit) (kind : QuasiNewtonKind) (size : Nat)
    (problem : Option (Problem R)) :
    (s.injectSubproblem kind size problem).subproblem = some s.workshop.nextSerial ∧
      (s.injectSubproblem kind size problem).options = s.options :=
  setSubproblem_eq _ _

/-- Running a strategy leaves the options. -/
theorem options_optimize (s : Session kit) (condition : kit.Condition) :
    (s.optimize condition).1.options = s.options := by
  cases hresolve : s.resolve with
  | error e =>
    rw [optimize_of_error hresolve]
    rfl
  | ok resolved =>
    rw [(optimize_of_ok hresolve condition).options]
    obtain ⟨-, ⟨hsame, -⟩ | ⟨-, -, kind, size, -, hbuilt⟩⟩ := resolve_cases hresolve
    · rw [hsame]
    · rw [hbuilt]
      rfl

/-- Only a caller who puts other options in place changes the options. -/
theorem options_perform (s : Session kit) {operation : Operation kit}
    (h : ∀ options, operation ≠ .setOptions options) :
    (s.perform operation).1.options = s.options := by
  cases operation with
  | setOptions options => exact absurd rfl (h options)
  | changeModel change => exact (s.changeThrough_keeps s.subproblem change).2
  | changeHeld name change => exact (s.changeThrough_keeps (s.held.find? name) change).2
  | inject kind size problem => exact (s.injectSubproblem_eq kind size problem).2
  | injectHeld name => exact (s.setHeldSubproblem_eq name).2
  | clear => exact s.clearSubproblem_eq.2
  | hold name => exact (s.hold_keeps name).2
  | release name => exact (s.release_keeps name).2
  | optimize condition => exact s.options_optimize condition

end Session

namespace Step

/-- The handle that a caller puts in place of the coordinator's own, if the step does that. -/
def placed? (step : Step kit) : Option (Option Nat) :=
  match step.operation with
  | .inject _ _ _ => some (some step.before.workshop.nextSerial)
  | .injectHeld name => (step.before.held.find? name).map some
  | .clear => some none
  | _ => none

variable [Scalar R]

/-- Whether a step is a call of the trust-region strategy that passes the checks of the
configuration. -/
def runsTrustRegion (step : Step kit) : Bool :=
  match step.operation, step.before.resolve with
  | .optimize _, .ok (request, _) => decide (request.algorithm = .trustRegion)
  | _, _ => false

/-- Whether such a call finds that the coordinator has no model. -/
def buildsModel (step : Step kit) : Bool :=
  step.before.subproblem.isNone && step.runsTrustRegion

/-- A call that is refused runs nothing. -/
theorem runsTrustRegion_of_error {s : Session kit} {e : OptimizerError}
    (h : s.resolve = .error e) (condition : kit.Condition) :
    (Step.mk s (.optimize condition)).runsTrustRegion = false := by
  rw [runsTrustRegion, h]

/-- A call that is resolved runs the strategy of its request. -/
theorem runsTrustRegion_of_resolve {s resolved : Session kit} {request : Request}
    (h : s.resolve = .ok (request, resolved)) (condition : kit.Condition) :
    (Step.mk s (.optimize condition)).runsTrustRegion =
      decide (request.algorithm = .trustRegion) := by
  rw [runsTrustRegion, h]

/-- No other operation runs a strategy. -/
theorem runsTrustRegion_of_aside {step : Step kit}
    (h : ∀ condition, step.operation ≠ .optimize condition) : step.runsTrustRegion = false := by
  unfold runsTrustRegion
  split
  next condition _ _ heq _ => exact absurd heq (h condition)
  next => rfl

/-- A step that runs nothing builds no model for the coordinator. -/
theorem buildsModel_of_not_runs {step : Step kit} (h : step.runsTrustRegion = false) :
    step.buildsModel = false := by
  rw [buildsModel, h, Bool.and_false]

/-- A resolved call leaves a fresh handle if it builds a model, and otherwise the one before. -/
theorem subproblem_resolved {s resolved : Session kit} {request : Request}
    (h : s.resolve = .ok (request, resolved)) (condition : kit.Condition) :
    resolved.subproblem =
      if (Step.mk s (.optimize condition)).buildsModel then some s.workshop.nextSerial
      else s.subproblem := by
  rw [buildsModel, runsTrustRegion_of_resolve h]
  obtain ⟨-, ⟨rfl, hown⟩ | ⟨hnone, rfl, kind, size, -, rfl⟩⟩ := Session.resolve_cases h
  · cases request with
    | trustRegion handle => simp [hown handle rfl]
    | interiorPoint | asymptotes => simp [Request.algorithm]
  · simp [hnone, Request.algorithm, Session.withBuiltSubproblem]

/-- The own handle after a step: a fresh one if the step builds a model, or else the one that a
caller puts in place, or else the one before. -/
theorem subproblem_after (step : Step kit) :
    step.after.subproblem =
      if step.buildsModel then some step.before.workshop.nextSerial
      else step.placed?.getD step.before.subproblem := by
  cases step.kind with
  | @refused s e condition hresolve =>
    rw [buildsModel_of_not_runs (runsTrustRegion_of_error hresolve condition),
      after_of_error hresolve]
    rfl
  | @carriedOut s resolved request condition hresolve =>
    exact (Session.optimize_of_ok hresolve condition).subproblem.trans
      (subproblem_resolved hresolve condition)
  | aside haside =>
    rw [buildsModel_of_not_runs (runsTrustRegion_of_aside haside), if_neg Bool.false_ne_true]
    obtain ⟨s, operation⟩ := step
    cases operation with
    | setOptions options => rfl
    | changeModel change => exact (s.changeThrough_keeps s.subproblem change).1
    | changeHeld name change => exact (s.changeThrough_keeps (s.held.find? name) change).1
    | inject kind size problem => exact (s.injectSubproblem_eq kind size problem).1
    | injectHeld name => exact (s.setHeldSubproblem_eq name).1
    | clear => exact s.clearSubproblem_eq.1
    | hold name => exact (s.hold_keeps name).1
    | release name => exact (s.release_keeps name).1
    | optimize condition => exact absurd rfl (haside condition)

end Step

end StrategyCoordinator
