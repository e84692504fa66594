import StrategyCoordinator.Proofs.Coordinator.Handles
import StrategyCoordinator.Proofs.Coordinator.Wiring
import StrategyCoordinator.Proofs.Model.Coherence

/-!
# Who changes the contents of a model

The contents of a model are its center, its radius and its curvature approximation. They change
only by changes that are asked for through a handle of the model: by a caller who changes it
directly, or by a trust-region backend that is bound to it, in the course of its run. Whatever
else is done, a model either leaves the shelf or stays as it is.
-/

namespace StrategyCoordinator

namespace TrustRegionRun

variable {R Q T : Type} [QuasiNewton R Q]

/-- The changes that a run asks for, one after another, on a model that is as given at first. -/
inductive Asks : TrustRegionRun R Q T → QuadraticModel R Q → List (ModelChange R) → Prop
  | finish (backend : T) (outcome : Except BackendFailure Unit) (model : QuadraticModel R Q) :
      Asks (.finish backend outcome) model []
  | inspect {next : QuadraticModel R Q → TrustRegionRun R Q T} {model : QuadraticModel R Q}
      {changes : List (ModelChange R)} (h : Asks (next model) model changes) :
      Asks (.inspect next) model changes
  | setCenter {x : Vec R} {next : Evaluation Unit → TrustRegionRun R Q T}
      {model : QuadraticModel R Q} {changes : List (ModelChange R)}
      (h : Asks (next ((model.setCenter x).map fun _ => ()))
        ((ModelChange.setCenter x).apply model).2 changes) :
      Asks (.setCenter x next) model (.setCenter x :: changes)
  | setRadius {radius : R} {next : TrustRegionRun R Q T} {model : QuadraticModel R Q}
      {changes : List (ModelChange R)} (h : Asks next (model.setRadius radius) changes) :
      Asks (.setRadius radius next) model (.setRadius radius :: changes)
  | updateCurvature {s y : Vec R} {next : Bool → TrustRegionRun R Q T}
      {model : QuadraticModel R Q} {changes : List (ModelChange R)}
      (h : Asks (next (model.updateCurvature s y).1) (model.updateCurvature s y).2 changes) :
      Asks (.updateCurvature s y next) model (.updateCurvature s y :: changes)
  | solve {checkpoint : Option String}
      {next : Except BackendFailure Unit → Option (OptimizedPoint R) → TrustRegionRun R Q T}
      {model : QuadraticModel R Q} {changes : List (ModelChange R)}
      (outcome : Except BackendFailure Unit) (point : Option (OptimizedPoint R))
      (h : Asks (next outcome point) model changes) :
      Asks (.solve checkpoint next) model changes

end TrustRegionRun

variable {R : Type} {kit : SolverKit R}

namespace Workshop

variable [Scalar R]

/-- A solve leaves the models. -/
theorem models_solve (condition : kit.Condition) (checkpoint : Option String) (w : Workshop kit)
    (ip : LiveInteriorPoint kit) : (solve condition checkpoint w ip).1.models = w.models := by
  rw [solve_workshop]
  cases checkpoint <;> rfl

/-- A run of a moving-asymptotes backend leaves the models. -/
theorem models_performAsymptotes (condition : kit.Condition) (owner : Nat) (w : Workshop kit)
    (ip : LiveInteriorPoint kit) (run : AsymptotesRun R kit.Asymptotes) :
    (performAsymptotes condition owner w ip run).workshop.models = w.models := by
  induction run generalizing w ip with
  | finish => rfl
  | setSurrogate surrogate next ih => exact ih _ ip
  | solve checkpoint next ih =>
    exact (ih _ _ _ _).trans (models_solve condition checkpoint w ip)

/-- One model holds the given contents, and all others are as they were. -/
def HasChanged (w : Workshop kit) (handle : Nat) (model : QuadraticModel R kit.Curvature)
    (w' : Workshop kit) : Prop :=
  w'.models.get? handle = some model ∧
    ∀ other, other ≠ handle → w'.models.get? other = w.models.get? other

omit [Scalar R] in
/-- Replacing the contents of a model leaves the others. -/
theorem hasChanged_modify {w : Workshop kit} {handle : Nat}
    {model : QuadraticModel R kit.Curvature} (hmodel : w.models.get? handle = some model)
    (change : QuadraticModel R kit.Curvature → QuadraticModel R kit.Curvature) :
    w.HasChanged handle (change model)
      { w with models := w.models.modify handle change } := by
  refine ⟨?_, fun other hother => Shelf.get?_modify_of_ne w.models change hother⟩
  rw [Shelf.get?_modify_self, hmodel]
  rfl

omit [Scalar R] in
/-- Contents that changed may change again. -/
theorem HasChanged.trans {w w' w'' : Workshop kit} {handle : Nat}
    {model model' : QuadraticModel R kit.Curvature} (h : w.HasChanged handle model w')
    (h' : w'.HasChanged handle model' w'') : w.HasChanged handle model' w'' :=
  ⟨h'.1, fun other hother => (h'.2 other hother).trans (h.2 other hother)⟩

/-- A run of a trust-region backend makes the changes that it asks for to its own model, and
leaves the others. -/
theorem hasChanged_performTrustRegion (condition : kit.Condition) (handle : Nat)
    (before : kit.TrustRegion) (w : Workshop kit) (ip : LiveInteriorPoint kit)
    (run : TrustRegionRun R kit.Curvature kit.TrustRegion)
    {model : QuadraticModel R kit.Curvature} (hmodel : w.models.get? handle = some model) :
    ∃ changes, run.Asks model changes ∧ w.HasChanged handle (model.changedBy changes)
      (performTrustRegion condition handle before w ip run).workshop := by
  induction run generalizing w ip model with
  | finish backend outcome =>
    exact ⟨[], .finish backend outcome model, hmodel, fun _ _ => rfl⟩
  | inspect next ih =>
    obtain ⟨changes, hasks, hchanged⟩ := ih model w ip hmodel
    simp only [performTrustRegion, hmodel]
    exact ⟨changes, .inspect hasks, hchanged⟩
  | setCenter x next ih =>
    simp only [performTrustRegion, hmodel]
    -- Which answer the run gets is left open here and filled in for each outcome below.
    have hanswer : ∀ answer, (model.setCenter x).map (fun _ => ()) = answer →
        ∀ changes, (next answer).Asks ((ModelChange.setCenter x).apply model).2 changes →
          (TrustRegionRun.setCenter x next).Asks model (.setCenter x :: changes) := by
      rintro answer rfl changes hasks
      exact .setCenter hasks
    cases hmoved : model.setCenter x with
    | error failure =>
      have hsame : ((ModelChange.setCenter x).apply model).2 = model := by
        simp only [ModelChange.apply, hmoved]
      rw [hmoved, hsame] at hanswer
      obtain ⟨changes, hasks, hchanged⟩ := ih (.error failure) w ip hmodel
      refine ⟨_, hanswer _ rfl changes hasks, ?_⟩
      rwa [QuadraticModel.changedBy, hsame]
    | ok moved =>
      have hnew : ((ModelChange.setCenter x).apply model).2 = moved := by
        simp only [ModelChange.apply, hmoved]
      rw [hmoved, hnew] at hanswer
      have hstep := hasChanged_modify hmodel fun _ => moved
      obtain ⟨changes, hasks, hchanged⟩ := ih (.ok ()) _ ip hstep.1
      refine ⟨_, hanswer _ rfl changes hasks, ?_⟩
      rw [QuadraticModel.changedBy, hnew]
      exact hstep.trans hchanged
  | setRadius radius next ih =>
    have hstep := hasChanged_modify hmodel (·.setRadius radius)
    obtain ⟨changes, hasks, hchanged⟩ := ih _ ip hstep.1
    exact ⟨_, .setRadius hasks, hstep.trans hchanged⟩
  | updateCurvature s y next ih =>
    simp only [performTrustRegion, hmodel]
    have hstep := hasChanged_modify hmodel fun _ => (model.updateCurvature s y).2
    obtain ⟨changes, hasks, hchanged⟩ := ih (model.updateCurvature s y).1 _ ip hstep.1
    exact ⟨_, .updateCurvature hasks, hstep.trans hchanged⟩
  | solve checkpoint next ih =>
    -- The run goes on from the workshop after the solve, which holds the same models.
    have hmodels := models_solve condition checkpoint w ip
    simp only [performTrustRegion]
    generalize solve condition checkpoint w ip = solved at hmodels
    obtain ⟨solved, inner, outcome⟩ := solved
    obtain ⟨changes, hasks, hchanged⟩ := ih outcome (kit.solution inner.backend) solved inner
      (hmodels ▸ hmodel)
    refine ⟨changes, .solve outcome _ hasks, hchanged.1, fun other hother => ?_⟩
    rw [hchanged.2 other hother, hmodels]

end Workshop

namespace Session

/-- Models that were there are left as they were, if they are left at all, except for the one of
the given handle. -/
structure LeavesModels (s : Session kit) (reached : Option Nat) (s' : Session kit) : Prop where
  nextSerial : s.workshop.nextSerial ≤ s'.workshop.nextSerial
  models : ∀ handle model, handle < s.workshop.nextSerial → reached ≠ some handle →
    s'.workshop.models.get? handle = some model → s.workshop.models.get? handle = some model

namespace LeavesModels

variable {s s' s'' : Session kit} {reached : Option Nat}

/-- What nothing is done to is left. -/
theorem of_eq (hserial : s'.workshop.nextSerial = s.workshop.nextSerial)
    (hmodels : s'.workshop.models = s.workshop.models) : s.LeavesModels reached s' :=
  ⟨Nat.le_of_eq hserial.symm, fun _ _ _ _ hmodel => hmodels ▸ hmodel⟩

/-- What is left by two operations one after another. -/
theorem trans (h : s.LeavesModels reached s') (h' : s'.LeavesModels reached s'') :
    s.LeavesModels reached s'' :=
  ⟨h.nextSerial.trans h'.nextSerial, fun handle model hlt hne hmodel =>
    h.models handle model hlt hne
      (h'.models handle model (Nat.lt_of_lt_of_le hlt h.nextSerial) hne hmodel)⟩

/-- If all models are left, then all but one are. -/
theorem but (h : s.LeavesModels none s') (reached : Option Nat) : s.LeavesModels reached s' :=
  ⟨h.nextSerial, fun handle model hlt _ => h.models handle model hlt nofun⟩

end LeavesModels

/-- A log record leaves the models. -/
theorem log_leavesModels (s : Session kit) (record : LogRecord) :
    s.LeavesModels none (s.log record) :=
  .of_eq rfl rfl

/-- What is left after letting go of a model is as it was. -/
theorem get?_of_remainingModels {s : Session kit} {handle : Option Nat} {other : Nat}
    {model : QuadraticModel R kit.Curvature}
    (h : (s.remainingModels handle).get? other = some model) :
    s.workshop.models.get? other = some model := by
  by_cases hother : s.isHeld other = true ∨ handle ≠ some other
  · rwa [s.get?_remainingModels handle hother] at h
  · obtain ⟨hheld, rfl⟩ : ¬s.isHeld other = true ∧ handle = some other := by simpa using hother
    simp [remainingModels, hheld] at h

/-- Letting go of a model leaves the others. -/
theorem letGo_leavesModels (s : Session kit) (handle : Option Nat) :
    s.LeavesModels none (s.letGo handle) := by
  rw [letGo_eq]
  exact ⟨Nat.le_refl _, fun _ _ _ _ => get?_of_remainingModels⟩

/-- Replacing the own handle changes no model. -/
theorem replaceHandle_leavesModels (s : Session kit) (handle : Option Nat) :
    s.LeavesModels none (s.replaceHandle handle) :=
  have hset : s.LeavesModels none { s with subproblem := handle } := .of_eq rfl rfl
  hset.trans (letGo_leavesModels _ _)

/-- Putting a model in place changes no model. -/
theorem setSubproblem_leavesModels (s : Session kit) (handle : Nat) :
    s.LeavesModels none (s.setSubproblem handle) := by
  have hwarned : s.LeavesModels none
      (if s.isForeign handle then s.log .foreignSubproblem else s) := by
    split
    · exact s.log_leavesModels .foreignSubproblem
    · exact .of_eq rfl rfl
  exact (hwarned.trans (log_leavesModels _ _)).trans (replaceHandle_leavesModels _ _)

/-- Putting the model of a kept handle in place changes no model. -/
theorem setHeldSubproblem_leavesModels (s : Session kit) (name : String) :
    s.LeavesModels none (s.setHeldSubproblem name) := by
  unfold setHeldSubproblem
  split
  · exact .of_eq rfl rfl
  · exact setSubproblem_leavesModels _ _

/-- Giving up the own model changes no other. -/
theorem clearSubproblem_leavesModels (s : Session kit) :
    s.LeavesModels none s.clearSubproblem :=
  (log_leavesModels _ _).trans (replaceHandle_leavesModels _ _)

/-- Keeping a handle changes no model. -/
theorem hold_leavesModels (s : Session kit) (name : String) :
    s.LeavesModels none (s.hold name).2 := by
  unfold hold
  split
  next => exact .of_eq rfl rfl
  next own _ =>
    have hkept : s.LeavesModels none { s with held := s.held.insert name own } := .of_eq rfl rfl
    exact hkept.trans (letGo_leavesModels _ _)

/-- Letting go of a kept handle changes no model. -/
theorem release_leavesModels (s : Session kit) (name : String) :
    s.LeavesModels none (s.release name).2 := by
  unfold release
  split
  next => exact .of_eq rfl rfl
  next handle _ =>
    have herased : s.LeavesModels none { s with held := s.held.erase name } := .of_eq rfl rfl
    exact herased.trans (letGo_leavesModels _ (some handle))

/-- A change through a handle leaves the models of other handles. -/
theorem changeThrough_leavesModels (s : Session kit) (handle : Option Nat)
    (change : ModelChange R) : s.LeavesModels handle (s.changeThrough handle change).2 := by
  unfold changeThrough
  split
  next => exact .of_eq rfl rfl
  next handle =>
    split
    next => exact .of_eq rfl rfl
    next =>
      refine ⟨Nat.le_refl _, fun other model _ hne hmodel => ?_⟩
      rwa [Shelf.get?_modify_of_ne _ _ fun heq => hne (congrArg some heq.symm)] at hmodel

/-- A change through a handle is made to the model of the handle. -/
theorem get?_changeThrough (s : Session kit) {handle : Nat} (change : ModelChange R)
    {model : QuadraticModel R kit.Curvature} (hmodel : s.workshop.models.get? handle = some model) :
    (s.changeThrough (some handle) change).2.workshop.models.get? handle =
      some (change.apply model).2 := by
  simp only [changeThrough, hmodel]
  rw [Shelf.get?_modify_self, hmodel]
  rfl

/-- A transition changes no model. -/
theorem transition_leavesModels (s : Session kit) (request : Request) :
    s.LeavesModels none (s.transition request) := by
  cases hserves : s.backends.serves request with
  | true =>
    rw [s.transition_of_serves hserves]
    exact .of_eq rfl rfl
  | false =>
    have h := s.transition_replacedFor hserves
    refine ⟨h.nextSerial ▸ Nat.le_add_right _ _, fun handle model _ _ hmodel => ?_⟩
    rw [h.models] at hmodel
    exact get?_of_remainingModels (s := s.withoutBackends) hmodel

/-- A transition leaves the coordinator's own model. -/
theorem model?_transition (s : Session kit) (request : Request) :
    (s.transition request).model? = s.model? := by
  cases hserves : s.backends.serves request with
  | true => rw [s.transition_of_serves hserves]
  | false =>
    have h := s.transition_replacedFor hserves
    rw [model?, model?, h.subproblem, h.models]
    cases hown : s.subproblem with
    | none => rfl
    | some handle =>
      have hheld : s.withoutBackends.isHeld handle = true := isHeld_iff.mpr (Or.inl hown)
      exact s.withoutBackends.get?_remainingModels _ (Or.inl hheld)

variable [Scalar R]

/-- A model that was just built is another one than all before. -/
theorem buildModel_leavesModels (s : Session kit) (source : ProblemObject R)
    (kind : QuasiNewtonKind) (size : Nat) :
    s.LeavesModels none { s with workshop := (s.workshop.buildModel source kind size).2 } := by
  refine ⟨Nat.le_succ _, fun handle model hlt _ hmodel => ?_⟩
  rwa [Workshop.buildModel, Shelf.get?_put_of_ne _ _ (Nat.ne_of_lt hlt)] at hmodel

/-- Building a model and putting it in place changes no other. -/
theorem injectSubproblem_leavesModels (s : Session kit) (kind : QuasiNewtonKind) (size : Nat)
    (problem : Option (Problem R)) :
    s.LeavesModels none (s.injectSubproblem kind size problem) :=
  (s.buildModel_leavesModels _ kind size).trans (setSubproblem_leavesModels _ _)

/-- Resolving the configuration changes no model. -/
theorem resolve_leavesModels {s resolved : Session kit} {request : Request}
    (h : s.resolve = .ok (request, resolved)) : s.LeavesModels none resolved := by
  obtain ⟨-, ⟨rfl, -⟩ | ⟨-, -, kind, size, -, rfl⟩⟩ := resolve_cases h
  · exact .of_eq rfl rfl
  · have hlogged := s.log_leavesModels (.buildingSubproblem kind size)
    have hbuilt := hlogged.trans (buildModel_leavesModels _ s.workshop.optimizedProblem kind size)
    exact hbuilt.trans (.of_eq rfl rfl)

end Session

/-- The handle of the model that a request names. -/
def Request.handle? : Request → Option Nat
  | .trustRegion handle => some handle
  | _ => none

/-- A request for the trust-region strategy names a model. -/
theorem Request.exists_handle {request : Request} (h : request.algorithm = .trustRegion) :
    ∃ handle, request = .trustRegion handle := by
  cases request with
  | trustRegion handle => exact ⟨handle, rfl⟩
  | interiorPoint | asymptotes => cases h

/-- Backends that serve a request are bound to the model that it names. -/
theorem Backends.bound?_of_serves {backends : Backends kit} {request : Request}
    (h : backends.serves request = true) : backends.bound? = request.handle? := by
  cases request with
  | trustRegion handle => exact eq_of_beq h
  | interiorPoint | asymptotes =>
    have hstate := eq_of_beq h
    cases backends with
    | uninitialized | interiorPoint | asymptotes => rfl
    | trustRegion => cases hstate

/-- The changes that a live trust-region backend asks for when it is run. -/
def Backends.Asks [Scalar R] (backends : Backends kit) (condition : kit.Condition)
    (model : QuadraticModel R kit.Curvature) (changes : List (ModelChange R)) : Prop :=
  ∃ tr ip bound, backends = .trustRegion tr ip bound ∧
    (kit.runTrustRegion condition tr.backend).Asks model changes

namespace Session

/-- The coordinator's own model is the one of its handle. -/
theorem model?_of_subproblem {s : Session kit} {handle : Nat} (h : s.subproblem = some handle) :
    s.model? = s.workshop.models.get? handle := by
  rw [model?, h]
  rfl

/-- What is on the shelf has a serial number that was given before. -/
theorem Stocked.lt_of_get? {s : Session kit} (h : s.Stocked) {handle : Nat}
    {model : QuadraticModel R kit.Curvature} (hmodel : s.workshop.models.get? handle = some model) :
    handle < s.workshop.nextSerial :=
  h.counted handle (Option.isSome_iff_exists.mpr ⟨model, hmodel⟩)

/-- The coordinator's own model is there if it has a handle. -/
theorem Stocked.exists_own {s : Session kit} (h : s.Stocked) {handle : Nat}
    (hown : s.subproblem = some handle) :
    ∃ model, s.workshop.models.get? handle = some model :=
  Option.isSome_iff_exists.mp (h.held handle (isHeld_iff.mpr (Or.inl hown)))

/-- The state in which a call that was resolved to a request hands over to the backends. -/
def handedOver (resolved : Session kit) (request : Request) : Session kit :=
  (resolved.log (.started request.algorithm resolved.state)).transition request

/-- The coordinator's own model is handed over as it is. -/
theorem model?_handedOver (resolved : Session kit) (request : Request) :
    (resolved.handedOver request).model? = resolved.model? :=
  model?_transition _ request

/-- The backends to which a call hands over are bound to the model that its request names. -/
theorem bound?_handedOver (resolved : Session kit) (request : Request) :
    (resolved.handedOver request).backends.bound? = request.handle? := by
  obtain ⟨-, -, -, -, hassembly, -, -⟩ :=
    (resolved.log (.started request.algorithm resolved.state)).transition_aligned request
  rw [handedOver, Backends.bound?_eq, hassembly, alignedAssembly]
  split
  next hserves =>
    rw [← Backends.bound?_eq]
    exact Backends.bound?_of_serves hserves
  next => cases request <;> rfl

/-- Handing over leaves the own handle. -/
theorem subproblem_handedOver (resolved : Session kit) (request : Request) :
    (resolved.handedOver request).subproblem = resolved.subproblem :=
  (transition_aligned _ request).2.1

variable [Scalar R]

/-- The backends to which a call hands over fit each other. -/
theorem sound_handedOver {problem : Problem R} {s resolved : Session kit} {request : Request}
    (hsound : s.Sound problem) (h : s.resolve = .ok (request, resolved)) :
    (resolved.handedOver request).Sound problem := by
  have hresolved := hsound.aside (resolve_aside h) (hsound.stocked.resolve h)
  have hown := subproblem_of_resolve h
  exact (hresolved.log (.started request.algorithm resolved.state)).transition hown

/-- A model that was there before a call is handed over as it was, if the request names it. -/
theorem get?_handedOver {problem : Problem R} {s resolved : Session kit} {request : Request}
    (hsound : s.Sound problem) (h : s.resolve = .ok (request, resolved)) {handle : Nat}
    (hhandle : request.handle? = some handle) {model : QuadraticModel R kit.Curvature}
    (hmodel : s.workshop.models.get? handle = some model) :
    (resolved.handedOver request).workshop.models.get? handle = some model := by
  cases request with
  | interiorPoint | asymptotes => cases hhandle
  | trustRegion own =>
    cases hhandle
    have hown := subproblem_of_resolve h handle rfl
    have hready := (resolved.subproblem_handedOver (.trustRegion handle)).trans hown
    rw [← model?_of_subproblem hready, model?_handedOver, model?_of_subproblem hown]
    obtain ⟨-, ⟨rfl, -⟩ | ⟨-, hfresh, -⟩⟩ := resolve_cases h
    · exact hmodel
    · cases hfresh
      exact absurd (hsound.stocked.lt_of_get? hmodel) (Nat.lt_irrefl _)

/-- A run of live backends makes the changes that the trust-region backend asks for to the model
that it is bound to. -/
theorem get?_runBackends {problem : Problem R} {s : Session kit} (hsound : s.Sound problem)
    (condition : kit.Condition) (checkpoint : Option String) {handle : Nat}
    (hbound : s.backends.bound? = some handle) {model : QuadraticModel R kit.Curvature}
    (hmodel : s.workshop.models.get? handle = some model) :
    ∃ changes, s.backends.Asks condition model changes ∧
      s.workshop.HasChanged handle (model.changedBy changes)
        (s.runBackends condition checkpoint).1.workshop := by
  have hwired := hsound.wired
  obtain ⟨workshop, options, backends, subproblem, held⟩ := s
  cases backends with
  | uninitialized | interiorPoint | asymptotes => cases hbound
  | trustRegion tr ip bound =>
    cases hbound
    obtain ⟨htr, -⟩ : tr.subproblem = handle ∧ ip.target = .subproblem handle := hwired
    subst htr
    obtain ⟨changes, hasks, hchanged⟩ := Workshop.hasChanged_performTrustRegion condition
      tr.subproblem tr.backend (workshop.happen (.ran .trustRegion tr.serial)) ip
      (kit.runTrustRegion condition tr.backend) hmodel
    exact ⟨changes, ⟨tr, ip, tr.subproblem, rfl, hasks⟩, hchanged⟩

/-- A run of live backends leaves the models that they are not bound to. -/
theorem runBackends_leavesModels {problem : Problem R} {s : Session kit}
    (hsound : s.Sound problem) (condition : kit.Condition) (checkpoint : Option String) :
    s.LeavesModels s.backends.bound? (s.runBackends condition checkpoint).1 := by
  have hserial := (s.runBackends_leaves condition checkpoint).nextSerial
  cases hbound : s.backends.bound? with
  | some handle =>
    have hheld : s.isHeld handle = true := isHeld_iff.mpr (Or.inr (Or.inl hbound))
    obtain ⟨model, hmodel⟩ := Option.isSome_iff_exists.mp (hsound.stocked.held handle hheld)
    obtain ⟨changes, -, -, hothers⟩ := get?_runBackends hsound condition checkpoint hbound hmodel
    refine ⟨Nat.le_of_eq hserial.symm, fun other found _ hne hfound => ?_⟩
    rwa [hothers other fun heq => hne (congrArg some heq.symm)] at hfound
  | none =>
    refine .of_eq hserial ?_
    obtain ⟨workshop, options, backends, subproblem, held⟩ := s
    cases backends with
    | uninitialized => rfl
    | interiorPoint ip => exact Workshop.models_solve condition checkpoint workshop ip
    | trustRegion tr ip bound => cases hbound
    | asymptotes mma ip => exact Workshop.models_performAsymptotes condition mma.serial _ ip _

/-- A call that was resolved leaves the models and the next serial number of the run. -/
theorem workshop_optimize {s resolved : Session kit} {request : Request}
    (h : s.resolve = .ok (request, resolved)) (condition : kit.Condition) :
    let ran := ((resolved.handedOver request).runBackends condition request.checkpoint).1
    (s.optimize condition).1.workshop.models = ran.workshop.models ∧
      (s.optimize condition).1.workshop.nextSerial = ran.workshop.nextSerial := by
  simp only [optimize, h, handedOver]
  generalize ((resolved.log (.started request.algorithm resolved.state)).transition
    request).runBackends condition request.checkpoint = ran
  obtain ⟨final, outcome⟩ := ran
  cases outcome with
  | error failure => exact ⟨rfl, rfl⟩
  | ok => exact ⟨rfl, rfl⟩

/-- Such a call leaves the backends and the events of the run, and answers what the run does. -/
theorem optimize_run {s resolved : Session kit} {request : Request}
    (h : s.resolve = .ok (request, resolved)) (condition : kit.Condition) :
    let ran := (resolved.handedOver request).runBackends condition request.checkpoint
    (s.optimize condition).1.backends = ran.1.backends ∧
      (s.optimize condition).1.events = ran.1.events ∧
      (s.optimize condition).2 = ran.2.mapError .backend := by
  simp only [optimize, h, handedOver]
  generalize ((resolved.log (.started request.algorithm resolved.state)).transition
    request).runBackends condition request.checkpoint = ran
  obtain ⟨final, outcome⟩ := ran
  cases outcome with
  | error failure => exact ⟨rfl, rfl, rfl⟩
  | ok => exact ⟨rfl, final.events_log _, rfl⟩

end Session

variable [Scalar R]

namespace Step

/-- The handle through which a step reaches a model, to change it or to have it changed by a run
of the trust-region strategy. -/
def reached? (step : Step kit) : Option Nat :=
  match step.operation with
  | .changeModel _ => step.before.subproblem
  | .changeHeld name _ => step.before.held.find? name
  | .optimize _ =>
    match step.before.resolve with
    | .ok (request, _) => request.handle?
    | .error _ => none
  | _ => none

/-- The changes that are asked for in a step: the one that a caller asks for, or those that a
trust-region backend asks for in its run. -/
inductive Asks : Step kit → QuadraticModel R kit.Curvature → List (ModelChange R) → Prop
  | changeModel (s : Session kit) (change : ModelChange R)
      (model : QuadraticModel R kit.Curvature) :
      Asks ⟨s, .changeModel change⟩ model [change]
  | changeHeld (s : Session kit) (name : String) (change : ModelChange R)
      (model : QuadraticModel R kit.Curvature) :
      Asks ⟨s, .changeHeld name change⟩ model [change]
  | optimize {s resolved : Session kit} {request : Request} {condition : kit.Condition}
      {model : QuadraticModel R kit.Curvature} {changes : List (ModelChange R)}
      (h : s.resolve = .ok (request, resolved))
      (hasks : (resolved.handedOver request).backends.Asks condition model changes) :
      Asks ⟨s, .optimize condition⟩ model changes

/-- A step leaves all models but the one that it reaches. -/
theorem leavesModels {problem : Problem R} (step : Step kit)
    (hsound : step.before.Sound problem) :
    step.before.LeavesModels step.reached? step.after := by
  cases step.kind with
  | @refused s e condition hresolve =>
    rw [after_of_error hresolve]
    exact (s.log_leavesModels (.refused e)).but _
  | @carriedOut s resolved request condition hresolve =>
    have hreached : (Step.mk s (.optimize condition)).reached? = request.handle? := by
      simp only [reached?, hresolve]
    have hready : s.LeavesModels none (resolved.handedOver request) :=
      ((Session.resolve_leavesModels hresolve).trans (Session.log_leavesModels _ _)).trans
        (Session.transition_leavesModels _ request)
    have hrun := Session.runBackends_leavesModels (Session.sound_handedOver hsound hresolve)
      condition request.checkpoint
    obtain ⟨hmodels, hserial⟩ := Session.workshop_optimize hresolve condition
    rw [Session.bound?_handedOver] at hrun
    rw [hreached]
    exact ((hready.but _).trans hrun).trans (.of_eq hserial hmodels)
  | aside haside =>
    obtain ⟨s, operation⟩ := step
    cases operation with
    | setOptions options => exact .of_eq rfl rfl
    | changeModel change => exact s.changeThrough_leavesModels s.subproblem change
    | changeHeld name change => exact s.changeThrough_leavesModels (s.held.find? name) change
    | inject kind size problem => exact s.injectSubproblem_leavesModels kind size problem
    | injectHeld name => exact s.setHeldSubproblem_leavesModels name
    | clear => exact s.clearSubproblem_leavesModels
    | hold name => exact s.hold_leavesModels name
    | release name => exact s.release_leavesModels name
    | optimize condition => exact absurd rfl (haside condition)

/-- A call that names the model of a handle in its request runs the backends on the contents that
the model has when it hands over, and leaves them changed as the run asks. -/
theorem get?_after_optimize {problem : Problem R} {s resolved : Session kit} {request : Request}
    (hsound : s.Sound problem) (hresolve : s.resolve = .ok (request, resolved)) {handle : Nat}
    (hhandle : request.handle? = some handle) (condition : kit.Condition)
    {model : QuadraticModel R kit.Curvature}
    (hmodel : (resolved.handedOver request).workshop.models.get? handle = some model) :
    ∃ changes, (resolved.handedOver request).backends.Asks condition model changes ∧
      (s.optimize condition).1.workshop.models.get? handle = some (model.changedBy changes) := by
  have hbound := (resolved.bound?_handedOver request).trans hhandle
  obtain ⟨changes, hasks, hafter, -⟩ := Session.get?_runBackends
    (Session.sound_handedOver hsound hresolve) condition request.checkpoint hbound hmodel
  obtain ⟨hmodels, -⟩ := Session.workshop_optimize hresolve condition
  exact ⟨changes, hasks, hmodels ▸ hafter⟩

/-- A step makes the changes that are asked for in it to the model that it reaches. -/
theorem get?_after {problem : Problem R} {step : Step kit} (hsound : step.before.Sound problem)
    {handle : Nat} (hreached : step.reached? = some handle)
    {model : QuadraticModel R kit.Curvature}
    (hmodel : step.before.workshop.models.get? handle = some model) :
    ∃ changes, step.Asks model changes ∧
      step.after.workshop.models.get? handle = some (model.changedBy changes) := by
  obtain ⟨s, operation⟩ := step
  cases operation with
  | setOptions | inject | injectHeld | clear | hold | release => cases hreached
  | changeModel change =>
    have hown : s.subproblem = some handle := hreached
    refine ⟨[change], .changeModel s change model, ?_⟩
    show (s.changeThrough s.subproblem change).2.workshop.models.get? handle = _
    rw [hown]
    exact s.get?_changeThrough change hmodel
  | changeHeld name change =>
    have hheld : s.held.find? name = some handle := hreached
    refine ⟨[change], .changeHeld s name change model, ?_⟩
    show (s.changeThrough (s.held.find? name) change).2.workshop.models.get? handle = _
    rw [hheld]
    exact s.get?_changeThrough change hmodel
  | optimize condition =>
    cases hresolve : s.resolve with
    | error e => simp [reached?, hresolve] at hreached
    | ok resolved =>
      obtain ⟨request, resolved⟩ := resolved
      have hhandle : request.handle? = some handle := by
        simpa [reached?, hresolve] using hreached
      have hready := Session.get?_handedOver hsound hresolve hhandle hmodel
      obtain ⟨changes, hasks, hafter⟩ :=
        get?_after_optimize hsound hresolve hhandle condition hready
      exact ⟨changes, .optimize hresolve hasks, hafter⟩

end Step

end StrategyCoordinator
