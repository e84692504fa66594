import StrategyCoordinator.Proofs.Coordinator.Contents
import StrategyCoordinator.Solvers.Elementary

/-!
# The coordinator's model persists

The coordinator builds a model only in a call of the trust-region strategy that finds none, with
the kind and size that the options hold in that call. Each time a caller gives the model up allows
for one more such call, so the approximations that the coordinator requests can be counted against
these. In between, the model stays what the changes asked for through its handles have made it,
whatever strategies are run, refused or fail.
-/

namespace StrategyCoordinator

/-- Whether an event is the building of a curvature approximation. -/
def Event.isCurvatureBuild : Event → Bool
  | .built .curvature _ => true
  | _ => false

/-- A run requests no approximation. -/
theorem Journal.IsRunOf.countP_isCurvatureBuild {roster : List (Role × Nat)} {runs : Journal}
    (h : runs.IsRunOf roster) : runs.events.countP Event.isCurvatureBuild = 0 := by
  rw [List.countP_eq_zero]
  intro event hevent
  rcases Journal.ran_or_checkpoint_of_mem h.reportsRun hevent with ⟨path, rfl⟩ | ⟨backend, -, rfl⟩
  · exact Bool.false_ne_true
  · exact Bool.false_ne_true

variable {R : Type} {kit : SolverKit R}

/-- Whether an operation gives up the coordinator's model. -/
def Operation.isClear : Operation kit → Bool
  | .clear => true
  | _ => false

namespace Step

/-- To leave the coordinator without a model, a caller gives it up. -/
theorem isClear_of_placed {step : Step kit} (h : step.placed? = some none) :
    step.operation.isClear = true := by
  unfold placed? at h
  split at h
  next => cases h
  next name _ => simp at h
  next heq =>
    rw [heq]
    rfl
  next => cases h

end Step

/-- A transition requests no approximation. -/
theorem Session.countP_transitionEntries (s : Session kit) (request : Request) :
    (s.transitionEntries request).events.countP Event.isCurvatureBuild = 0 := by
  rw [List.countP_eq_zero]
  intro event hevent
  cases hserves : s.backends.serves request with
  | true =>
    rw [events_transitionEntries_of_serves hserves] at hevent
    exact absurd hevent List.not_mem_nil
  | false =>
    rw [events_transitionEntries_of_not_serves hserves] at hevent
    rcases List.mem_append.mp hevent with hevent | hevent
    · obtain ⟨backend, -, rfl⟩ := List.mem_map.mp hevent
      exact Bool.false_ne_true
    rcases List.mem_append.mp hevent with hevent | hevent
    · obtain ⟨serial, -, rfl⟩ := eq_dropped_of_mem_partings hevent
      exact Bool.false_ne_true
    · obtain ⟨⟨role, serial⟩, hbuilt, rfl⟩ := List.mem_map.mp hevent
      have hrole : role ≠ .curvature := request.ne_curvature_of_mem_builds _ _ hbuilt
      cases role with
      | curvature => exact absurd rfl hrole
      | interiorPoint | trustRegion | asymptotes => exact Bool.false_ne_true

variable [Scalar R]

namespace Step

/-- How many curvature approximations the coordinator requests in a step. Those that a caller
requests for a model of the caller's are not counted. -/
def curvatureRequests (step : Step kit) : Nat :=
  match step.operation with
  | .optimize _ => step.events.countP Event.isCurvatureBuild
  | _ => 0

/-- The coordinator requests one approximation in a step that builds a model, and none in any
other. -/
theorem curvatureRequests_eq (step : Step kit) :
    step.curvatureRequests = if step.buildsModel then 1 else 0 := by
  cases step.kind with
  | @aside step haside =>
    rw [buildsModel_of_not_runs (runsTrustRegion_of_aside haside)]
    unfold curvatureRequests
    split
    next condition heq => exact absurd heq (haside condition)
    next => rfl
  | @refused s e condition hresolve =>
    rw [buildsModel_of_not_runs (runsTrustRegion_of_error hresolve condition)]
    show (Step.mk s (.optimize condition)).events.countP _ = 0
    rw [events_of_log (after_of_error hresolve condition)]
    rfl
  | @carriedOut s resolved request condition hresolve =>
    obtain ⟨runs, hruns, hevents⟩ := events_of_resolved hresolve condition
    show (Step.mk s (.optimize condition)).events.countP _ = _
    rw [hevents, List.countP_append, List.countP_append, resolved.countP_transitionEntries,
      hruns.countP_isCurvatureBuild, buildsModel, runsTrustRegion_of_resolve hresolve,
      Session.modelBuilds]
    cases s.subproblem with
    | some handle => rfl
    | none =>
      by_cases hrequest : request.algorithm = .trustRegion
      · simp [hrequest, Event.isCurvatureBuild]
      · simp [hrequest]

/-- A caller who puts a model in place, or gives it up, requests nothing of the coordinator. -/
theorem buildsModel_of_placed {step : Step kit} {handle : Option Nat}
    (h : step.placed? = some handle) : step.buildsModel = false := by
  refine buildsModel_of_not_runs (runsTrustRegion_of_aside fun condition heq => ?_)
  simp [placed?, heq] at h

end Step

namespace Session

/-- How many approximations the coordinator may request before a model is given up again. -/
def allowance (s : Session kit) : Nat :=
  if s.subproblem = none then 1 else 0

/-- A step pays for the approximation that it requests out of the allowance, which grows only when
the model is given up. -/
theorem curvatureRequests_allowance (step : Step kit) :
    step.curvatureRequests + step.after.allowance ≤
      step.before.allowance + if step.operation.isClear then 1 else 0 := by
  have hafter := step.subproblem_after
  rw [step.curvatureRequests_eq, allowance, allowance]
  cases hbuilds : step.buildsModel with
  | true =>
    -- The allowance is there, since no model was found, and it is used up afterwards.
    have hnone : step.before.subproblem = none := by
      simp only [Step.buildsModel, Bool.and_eq_true, Option.isNone_iff_eq_none] at hbuilds
      exact hbuilds.1
    rw [hbuilds, if_pos rfl] at hafter
    simp [hafter, hnone]
  | false =>
    -- Nothing is requested, and only a handle that is given up adds to the allowance.
    rw [hbuilds, if_neg Bool.false_ne_true] at hafter
    cases hplaced : step.placed? with
    | none => simp [hafter, hplaced]
    | some handle =>
      cases handle with
      | some handle => simp [hafter, hplaced]
      | none => simp [hafter, hplaced, Step.isClear_of_placed hplaced]

/-- The approximations that the coordinator requests in a history, counted step by step. -/
def curvatureRequests (s : Session kit) : List (Operation kit) → Nat
  | [] => 0
  | operation :: rest =>
    (Step.mk s operation).curvatureRequests + (s.perform operation).1.curvatureRequests rest

/-- The requests of one history after another. -/
theorem curvatureRequests_append (s : Session kit) (first second : List (Operation kit)) :
    s.curvatureRequests (first ++ second) =
      s.curvatureRequests first + (s.performAll first).curvatureRequests second := by
  induction first generalizing s with
  | nil => exact (Nat.zero_add _).symm
  | cons operation rest ih =>
    rw [List.cons_append, curvatureRequests, curvatureRequests, ih, Nat.add_assoc]
    rfl

/-- Over a history, the coordinator requests no more approximations than its allowance and the
givings up of the model admit. -/
theorem curvatureRequests_le (s : Session kit) (operations : List (Operation kit)) :
    s.curvatureRequests operations + (s.performAll operations).allowance ≤
      s.allowance + operations.countP Operation.isClear := by
  induction operations generalizing s with
  | nil => simp [curvatureRequests, performAll]
  | cons operation rest ih =>
    have hstep : (Step.mk s operation).curvatureRequests + (s.perform operation).1.allowance ≤
        s.allowance + if operation.isClear then 1 else 0 :=
      curvatureRequests_allowance (Step.mk s operation)
    have hrest := ih (s.perform operation).1
    rw [curvatureRequests, List.countP_cons]
    show _ + ((s.perform operation).1.performAll rest).allowance ≤ _
    omega

/-- A history that never runs the trust-region strategy requests no approximation. -/
theorem curvatureRequests_of_not_runs {s : Session kit} {operations : List (Operation kit)}
    (h : ∀ step ∈ s.steps operations, step.runsTrustRegion = false) :
    s.curvatureRequests operations = 0 := by
  induction operations generalizing s with
  | nil => rfl
  | cons operation rest ih =>
    obtain ⟨hfirst, hrest⟩ := List.forall_mem_cons.mp h
    rw [curvatureRequests, ih hrest, Step.curvatureRequests_eq,
      Step.buildsModel_of_not_runs hfirst]
    rfl

/-- If a caller puts a model in place before the trust-region strategy is run for the first time,
and it is never given up after that, the coordinator requests no approximation. -/
theorem curvatureRequests_of_injected {s : Session kit} {first : List (Operation kit)}
    {operation : Operation kit} {later : List (Operation kit)} {handle : Nat}
    (hfirst : ∀ step ∈ s.steps first, step.runsTrustRegion = false)
    (hplaced : (Step.mk (s.performAll first) operation).placed? = some (some handle))
    (hlater : ∀ operation ∈ later, operation.isClear = false) :
    s.curvatureRequests (first ++ operation :: later) = 0 := by
  have hbefore := curvatureRequests_of_not_runs hfirst
  have hstep := (Step.mk (s.performAll first) operation).curvatureRequests_eq
  rw [Step.buildsModel_of_placed hplaced, if_neg Bool.false_ne_true] at hstep
  have hown : ((s.performAll first).perform operation).1.subproblem = some handle := by
    have hafter := (Step.mk (s.performAll first) operation).subproblem_after
    rw [Step.buildsModel_of_placed hplaced, if_neg Bool.false_ne_true, hplaced] at hafter
    exact hafter
  have hrest := ((s.performAll first).perform operation).1.curvatureRequests_le later
  have hclears : later.countP Operation.isClear = 0 := by
    rw [List.countP_eq_zero]
    intro operation hmem
    rw [hlater operation hmem]
    exact Bool.false_ne_true
  rw [hclears, allowance, allowance, hown] at hrest
  rw [curvatureRequests_append, curvatureRequests]
  simp only [reduceCtorEq, if_false] at hrest
  omega

/-- A call hands over a model that it built for the problem: its number was not given before, it
has no center, and its approximation is of the kind and size that the options hold in the call. -/
structure HandsOverFresh (problem : Problem R) (s ready : Session kit) : Prop where
  unused : s.workshop.models.get? s.workshop.nextSerial = none
  own : ready.subproblem = some s.workshop.nextSerial
  bound : ready.backends.bound? = some s.workshop.nextSerial
  model : ∃ text kind size, s.options.getChoice OptionName.quasiNewtonKind = .ok text ∧
    QuasiNewtonKind.parse? text = some kind ∧
    s.options.getInt OptionName.subspaceSize = .ok size ∧ 0 ≤ size.toInt ∧
    ready.model? = some
      { source := ⟨.optimized, problem⟩
        curvature := kit.newCurvature s.workshop.nextSerial kind problem size.toInt.toNat
        center := none
        radius := Scalar.tenth }

/-- A call of the trust-region strategy that finds no model hands over a fresh one. -/
theorem handsOverFresh {problem : Problem R} {s resolved : Session kit} {request : Request}
    (hsound : s.Sound problem) (h : s.resolve = .ok (request, resolved))
    (hnone : s.subproblem = none) (hrequest : request.algorithm = .trustRegion) :
    s.HandsOverFresh problem (resolved.handedOver request) := by
  have hunused : s.workshop.models.get? s.workshop.nextSerial = none := by
    rw [← Option.not_isSome_iff_eq_none]
    exact fun hsome => Nat.lt_irrefl _ (hsound.stocked.counted _ hsome)
  obtain ⟨-, ⟨rfl, hown⟩ | ⟨-, rfl, kind, size, hread, rfl⟩⟩ := resolve_cases h
  · obtain ⟨handle, rfl⟩ := Request.exists_handle hrequest
    rw [hown handle rfl] at hnone
    cases hnone
  · obtain ⟨text, n, htext, hparse, hn, hpositive, rfl⟩ :=
      OptionStore.readQuasiNewton_eq_ok.mp hread
    refine ⟨hunused, subproblem_handedOver _ _, bound?_handedOver _ _,
      text, kind, n, htext, hparse, hn, hpositive, ?_⟩
    rw [model?_handedOver, model?_of_subproblem rfl, ← hsound.problem]
    exact Shelf.get?_put_self _ _ _

/-- A caller who puts nothing in place leaves the coordinator its model, whatever strategies are
run, refused or fail. -/
theorem subproblem_performAll {s : Session kit} {handle : Nat} (hown : s.subproblem = some handle)
    {operations : List (Operation kit)}
    (h : ∀ step ∈ s.steps operations, step.placed? = none) :
    (s.performAll operations).subproblem = some handle := by
  induction operations generalizing s with
  | nil => exact hown
  | cons operation rest ih =>
    obtain ⟨hfirst, hrest⟩ := List.forall_mem_cons.mp h
    have hafter := (Step.mk s operation).subproblem_after
    rw [hfirst, Step.buildsModel, hown] at hafter
    exact ih hafter hrest

/-- A model that no step of a history reaches is at the end as it was at the start, if it is still
there. -/
theorem get?_performAll {problem : Problem R} {s : Session kit} (hsound : s.Sound problem)
    {handle : Nat} (hlt : handle < s.workshop.nextSerial) {operations : List (Operation kit)}
    (h : ∀ step ∈ s.steps operations, step.reached? ≠ some handle)
    {model : QuadraticModel R kit.Curvature}
    (hmodel : (s.performAll operations).workshop.models.get? handle = some model) :
    s.workshop.models.get? handle = some model := by
  induction operations generalizing s with
  | nil => exact hmodel
  | cons operation rest ih =>
    obtain ⟨hfirst, hrest⟩ := List.forall_mem_cons.mp h
    have hleaves := (Step.mk s operation).leavesModels hsound
    have hlt' := Nat.lt_of_lt_of_le hlt hleaves.nextSerial
    exact hleaves.models handle model hlt hfirst
      (ih (hsound.perform operation) hlt' hrest hmodel)

/-- After a detour in which nothing was put in place of the coordinator's model and nothing reached
it, the model is there as it was left. -/
theorem model?_after_detour {problem : Problem R} {s : Session kit} (hsound : s.Sound problem)
    {handle : Nat} (hown : s.subproblem = some handle) {detour : List (Operation kit)}
    (h : ∀ step ∈ s.steps detour, step.placed? = none ∧ step.reached? ≠ some handle) :
    (s.performAll detour).subproblem = some handle ∧
      ∃ model, s.model? = some model ∧ (s.performAll detour).model? = some model := by
  have hown' := subproblem_performAll hown fun step hstep => (h step hstep).1
  have hsound' : (s.performAll detour).Sound problem :=
    performAll_invariant (fun _ operation hs => hs.perform operation) hsound detour
  have hlt := hsound.stocked.lt_of_isHeld (isHeld_iff.mpr (Or.inl hown))
  obtain ⟨model, hmodel⟩ := hsound'.stocked.exists_own hown'
  have hbefore := get?_performAll hsound hlt (fun step hstep => (h step hstep).2) hmodel
  rw [model?_of_subproblem hown', model?_of_subproblem hown]
  exact ⟨hown', model, hbefore, hmodel⟩

/-- A call hands over the model that the coordinator has. -/
theorem handedOver_own {s resolved : Session kit} {request : Request} {handle : Nat}
    (hown : s.subproblem = some handle) (h : s.resolve = .ok (request, resolved))
    (hrequest : request.algorithm = .trustRegion) :
    (resolved.handedOver request).subproblem = some handle ∧
      (resolved.handedOver request).backends.bound? = some handle ∧
      (resolved.handedOver request).model? = s.model? := by
  obtain ⟨-, ⟨rfl, hown'⟩ | ⟨hnone, -⟩⟩ := resolve_cases h
  · obtain ⟨named, rfl⟩ := Request.exists_handle hrequest
    rw [hown' named rfl] at hown
    cases hown
    exact ⟨(subproblem_handedOver _ _).trans (hown' handle rfl), bound?_handedOver _ _,
      model?_handedOver _ _⟩
  · rw [hown] at hnone
    cases hnone

/-- A call of the trust-region strategy changes the coordinator's model, from what it is when the
call hands it over, as its run asks. -/
theorem model?_optimize {problem : Problem R} {s resolved : Session kit} {request : Request}
    (hsound : s.Sound problem) (h : s.resolve = .ok (request, resolved))
    (hrequest : request.algorithm = .trustRegion) (condition : kit.Condition) :
    ∃ model changes, (resolved.handedOver request).model? = some model ∧
      (resolved.handedOver request).backends.Asks condition model changes ∧
      (s.optimize condition).1.model? = some (model.changedBy changes) := by
  obtain ⟨handle, rfl⟩ := Request.exists_handle hrequest
  have hown := subproblem_of_resolve h handle rfl
  have hready := (resolved.subproblem_handedOver (.trustRegion handle)).trans hown
  have hafter := (optimize_of_ok h condition).subproblem.trans hown
  obtain ⟨model, hmodel⟩ := (sound_handedOver hsound h).stocked.exists_own hready
  obtain ⟨changes, hasks, hchanged⟩ := Step.get?_after_optimize hsound h rfl condition hmodel
  refine ⟨model, changes, ?_, hasks, ?_⟩
  · rw [model?_of_subproblem hready, hmodel]
  · rw [model?_of_subproblem hafter, hchanged]

end Session

/-- What a step does to the contents of models that are there before it and after it. -/
structure Step.Contents (step : Step kit) : Prop where
  /-- A model that the step does not reach stays as it is. -/
  others : ∀ handle model model', step.before.workshop.models.get? handle = some model →
    step.after.workshop.models.get? handle = some model' → step.reached? ≠ some handle →
      model' = model
  /-- A model that it reaches is changed just as the step asks. -/
  reached : ∀ handle model, step.before.workshop.models.get? handle = some model →
    step.reached? = some handle → ∃ changes, step.Asks model changes ∧
      step.after.workshop.models.get? handle = some (model.changedBy changes)

/-- The contents of a model change only by changes that are asked for through a handle of it. -/
theorem Step.contents {problem : Problem R} (step : Step kit)
    (hsound : step.before.Sound problem) : step.Contents where
  others handle model model' hbefore hafter hne := by
    have hlt := hsound.stocked.lt_of_get? hbefore
    have hkept := (step.leavesModels hsound).models handle model' hlt hne hafter
    exact Option.some.inj (hkept.symm.trans hbefore)
  reached handle model hbefore hreached := step.get?_after hsound hreached hbefore

namespace Session

/-- In every reachable state, each operation leaves the coordinator's own handle, but for the one
that a caller puts in place and the fresh one that a call of the trust-region strategy takes if it
finds none; such a call hands over a model of the problem without a center, made as the options
say in that call. Over a history the coordinator requests at most one approximation more than its
model was given up, and none if a caller put a model in place in time. The contents of a model
change only as is asked for through its handles, so a call of the trust-region strategy starts
from the model as it was left before any detour. -/
theorem subproblem_persists (problem : Problem R) (options : OptionStore)
    (operations : List (Operation kit)) :
    let start := new kit problem options
    let s := start.performAll operations
    (∀ operation : Operation kit,
      let step : Step kit := ⟨s, operation⟩
      step.after.subproblem = (if step.buildsModel then some s.workshop.nextSerial
        else step.placed?.getD s.subproblem) ∧
      step.curvatureRequests = (if step.buildsModel then 1 else 0) ∧ step.Contents) ∧
    (∀ request resolved, s.resolve = .ok (request, resolved) → s.subproblem = none →
      request.algorithm = .trustRegion →
        s.HandsOverFresh problem (resolved.handedOver request)) ∧
    (∀ request resolved condition, s.resolve = .ok (request, resolved) →
      request.algorithm = .trustRegion → ∃ model changes,
        (resolved.handedOver request).model? = some model ∧
        (resolved.handedOver request).backends.Asks condition model changes ∧
        (s.optimize condition).1.model? = some (model.changedBy changes)) ∧
    start.curvatureRequests operations ≤ 1 + operations.countP Operation.isClear ∧
    (∀ first operation later handle, operations = first ++ operation :: later →
      (∀ step ∈ start.steps first, step.runsTrustRegion = false) →
      (Step.mk (start.performAll first) operation).placed? = some (some handle) →
      (∀ operation ∈ later, operation.isClear = false) →
        start.curvatureRequests operations = 0) ∧
    ∀ handle detour, s.subproblem = some handle →
      (∀ step ∈ s.steps detour, step.placed? = none ∧ step.reached? ≠ some handle) →
      let s' := s.performAll detour
      s'.subproblem = some handle ∧ ∃ model, s.model? = some model ∧ s'.model? = some model ∧
        ∀ request resolved, s'.resolve = .ok (request, resolved) →
          request.algorithm = .trustRegion →
            let ready := resolved.handedOver request
            ready.subproblem = some handle ∧ ready.backends.bound? = some handle ∧
              ready.model? = some model := by
  intro start s
  have hsound : s.Sound problem := performAll_sound problem options operations
  refine ⟨fun operation => ?_, fun request resolved hresolve hnone hrequest => ?_, ?_, ?_, ?_, ?_⟩
  · intro step
    exact ⟨step.subproblem_after, step.curvatureRequests_eq, step.contents hsound⟩
  · exact handsOverFresh hsound hresolve hnone hrequest
  · intro request resolved condition hresolve hrequest
    exact model?_optimize hsound hresolve hrequest condition
  · have hcount := start.curvatureRequests_le operations
    have hstart : start.allowance = 1 := rfl
    omega
  · rintro first operation later handle rfl hfirst hplaced hlater
    exact curvatureRequests_of_injected hfirst hplaced hlater
  · intro handle detour hown hdetour s'
    obtain ⟨hown', model, hbefore, hafter⟩ := model?_after_detour hsound hown hdetour
    refine ⟨hown', model, hbefore, hafter, fun request resolved hresolve hrequest => ?_⟩
    rw [← hafter]
    exact handedOver_own hown' hresolve hrequest

/-- With the standard solvers and the default options, the first call builds a model. It stays as it
was during a run of the moving asymptotes and a refused call, and a caller can change its radius.
If a caller puts a model in place beforehand, the coordinator builds none. -/
theorem standard_subproblem_persists :
    let kit := ElementarySolvers.standard.kit
    let problem : Problem Binary64 := Problem.ofBounds [] 0
    let start := new kit problem (OptionStore.empty.addDefaults kit.registerOptions).1
    let ran := start.performAll [.optimize none]
    let asymptotes := (OptionStore.empty.registerAll
      [.choice OptionName.algorithm "mma" ["mma"] "The strategy"]).1
    let detour : List (Operation kit) :=
      [.setOptions asymptotes, .optimize none, .setOptions .empty, .optimize none]
    let widened : Step kit := ⟨ran, .changeModel (.setRadius (Binary64.ofInt 1))⟩
    (∃ request resolved, start.resolve = .ok (request, resolved) ∧
      start.HandsOverFresh problem (resolved.handedOver request) ∧
      ∃ model changes, (resolved.handedOver request).model? = some model ∧
        (resolved.handedOver request).backends.Asks none model changes ∧
        ran.model? = some (model.changedBy changes)) ∧
      (ran.performAll detour).subproblem = some 0 ∧
      (∃ model changes, ran.model? = some model ∧ (ran.performAll detour).model? = some model ∧
        widened.Asks model changes ∧
        widened.after.workshop.models.get? 0 = some (model.changedBy changes)) ∧
      start.curvatureRequests [.inject .sr1 5 none, .optimize none] = 0 := by
  intro kit problem start ran asymptotes detour widened
  have hresolves : isRefusal (start.optimize none).2 = false := by decide
  have hread : start.options.readAlgorithm = .ok .trustRegion := rfl
  have hown : ran.subproblem = some 0 := rfl
  have hdetour : ∀ step ∈ ran.steps detour, step.placed? = none ∧ step.reached? ≠ some 0 := by
    decide
  obtain ⟨request, resolved, hresolve⟩ := exists_resolve_of_not_refused hresolves
  have hrequest : request.algorithm = .trustRegion :=
    Except.ok.inj ((resolve_cases hresolve).1.symm.trans hread)
  obtain ⟨-, hfresh, hruns, -⟩ :=
    subproblem_persists problem start.options ([] : List (Operation kit))
  obtain ⟨hsteps, -, -, -, -, hleft⟩ :=
    subproblem_persists problem start.options ([.optimize none] : List (Operation kit))
  obtain ⟨-, -, -, -, hinjected, -⟩ := subproblem_persists problem start.options
    ([.inject .sr1 5 none, .optimize none] : List (Operation kit))
  obtain ⟨hkept, model, hmodel, hleft', -⟩ := hleft 0 detour hown hdetour
  obtain ⟨-, -, hcontents⟩ := hsteps (.changeModel (.setRadius (Binary64.ofInt 1)))
  obtain ⟨changes, hasks, hwidened⟩ := hcontents.reached 0 model hmodel hown
  have hfirst := hfresh request resolved hresolve rfl hrequest
  have hran := hruns request resolved none hresolve hrequest
  refine ⟨⟨request, resolved, hresolve, hfirst, hran⟩, hkept,
    ⟨model, changes, hmodel, hleft', hasks, hwidened⟩, ?_⟩
  have hplaced : (Step.mk start (.inject .sr1 5 none)).placed? = some (some 0) := rfl
  refine hinjected [] (.inject .sr1 5 none) [.optimize none] 0 rfl ?_ hplaced ?_
  · exact fun step hstep => absurd hstep List.not_mem_nil
  · exact List.forall_mem_singleton.mpr rfl

end Session

end StrategyCoordinator
