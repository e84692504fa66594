import StrategyCoordinator.Proofs.Coordinator.Handles
import StrategyCoordinator.Proofs.Coordinator.Wiring
import StrategyCoordinator.Solvers.Elementary

/-!
# When backends are reused

Live backends suit a request if they are those of its strategy and, for the trust-region
strategy, are bound to the model that the request names. A call reuses backends that suit and
replaces all others. Counted over a history, interior-point backends are built exactly in the
calls that found the live backends unsuited.
-/

namespace StrategyCoordinator

/-- Events of a run: the first backend of the roster is run first, and then only backends of the
roster are run and checkpoint files handed out. -/
def RunsOf (roster : List (Role × Nat)) (events : List Event) : Prop :=
  events.head? = roster.head?.map (fun backend => .ran backend.1 backend.2) ∧
    ∀ event ∈ events, (∃ path, event = .checkpoint path) ∨
      ∃ backend ∈ roster, event = .ran backend.1 backend.2

/-- The events of a run, read off its entries. -/
theorem Journal.IsRunOf.runsOf {roster : List (Role × Nat)} {runs : Journal}
    (h : runs.IsRunOf roster) : RunsOf roster runs.events := by
  constructor
  · cases roster with
    | nil =>
      obtain rfl : runs = [] := h
      rfl
    | cons outer inner =>
      obtain ⟨rest, rfl, -⟩ := h
      rfl
  · intro event hevent
    exact Journal.ran_or_checkpoint_of_mem h.reportsRun hevent

variable {R : Type} {kit : SolverKit R}

namespace Backends

/-- Backends suit a request of their strategy, if it names the model that they are bound to or
names none. -/
def Suits (backends : Backends kit) (request : Request) : Prop :=
  backends.state.algorithm? = some request.algorithm ∧
    ∀ handle, request = .trustRegion handle → backends.bound? = some handle

/-- The backends that serve a request are those that suit it. -/
theorem serves_iff_suits {backends : Backends kit} {request : Request} :
    backends.serves request = true ↔ backends.Suits request := by
  constructor
  · intro h
    refine ⟨algorithm?_of_serves h, ?_⟩
    rintro handle rfl
    exact eq_of_beq h
  · rintro ⟨halgorithm, hbound⟩
    cases request with
    | trustRegion handle => exact beq_iff_eq.mpr (hbound handle rfl)
    | interiorPoint | asymptotes =>
      cases backends with
      | uninitialized => cases halgorithm
      | interiorPoint | trustRegion | asymptotes => first | rfl | cases halgorithm

instance (backends : Backends kit) (request : Request) : Decidable (backends.Suits request) :=
  decidable_of_iff _ serves_iff_suits

/-- Unsuited backends do not serve the request. -/
theorem serves_eq_false {backends : Backends kit} {request : Request}
    (h : ¬backends.Suits request) : backends.serves request = false := by
  rw [← Bool.not_eq_true, serves_iff_suits]
  exact h

end Backends

namespace Session

/-- A call that ran the live backends as they were: none was built or dropped. -/
structure Reused (s s' : Session kit) : Prop where
  assembly : s'.backends.assembly = s.backends.assembly
  events : ∃ runs, RunsOf s.backends.roster runs ∧ s'.events = s.events ++ runs

/-- A call that replaced the live backends: a missing model was built, all live backends were
dropped, the model that they were bound to was let go, the backends for the request were built,
and these were run. -/
structure Rebuilt (s : Session kit) (request : Request) (next : Nat) (s' : Session kit) :
    Prop where
  assembly : s'.backends.assembly = request.assembly next
  events : ∃ partings runs,
    (∀ event ∈ partings, ∃ bound, s.backends.bound? = some bound ∧
      event = .dropped .curvature bound) ∧
    RunsOf (request.assembly next).roster runs ∧
    s'.events = s.events ++ (s.modelBuilds request ++
      ((s.backends.roster.map fun backend => .dropped backend.1 backend.2) ++
        (partings ++ (((request.builds next).map fun backend =>
          .built backend.1 backend.2) ++ runs))))

/-- A model that was just built is not the one that live backends are bound to. -/
theorem not_suits_nextSerial {s : Session kit} (h : s.Stocked) :
    ¬s.backends.Suits (.trustRegion s.workshop.nextSerial) := by
  rintro ⟨-, hbound⟩
  have hheld : s.isHeld s.workshop.nextSerial = true :=
    isHeld_iff.mpr (Or.inr (Or.inl (hbound _ rfl)))
  exact absurd (h.lt_of_isHeld hheld) (Nat.lt_irrefl _)

variable [Scalar R]

/-- Resolving builds nothing if the live backends suit the request. -/
theorem resolved_eq_of_suits {s resolved : Session kit} {request : Request} (hstocked : s.Stocked)
    (h : s.resolve = .ok (request, resolved)) (hsuits : s.backends.Suits request) :
    resolved = s := by
  obtain ⟨-, ⟨hsame, -⟩ | ⟨-, hrequest, -⟩⟩ := resolve_cases h
  · exact hsame
  · rw [hrequest] at hsuits
    exact absurd hsuits (not_suits_nextSerial hstocked)

/-- Backends that suit the request are reused. -/
theorem optimize_reused {s resolved : Session kit} {request : Request} (hstocked : s.Stocked)
    (h : s.resolve = .ok (request, resolved)) (hsuits : s.backends.Suits request)
    (condition : kit.Condition) : s.Reused (s.optimize condition).1 := by
  obtain rfl := resolved_eq_of_suits hstocked h hsuits
  have hserves := Backends.serves_iff_suits.mpr hsuits
  have hcarried := optimize_of_ok h condition
  have hassembly : (resolved.optimize condition).1.backends.assembly =
      resolved.backends.assembly := by
    rw [hcarried.assembly, alignedAssembly, if_pos hserves]
  obtain ⟨runs, hruns, hevents⟩ := hcarried.events
  rw [Backends.roster, hassembly] at hruns
  rw [events_transitionEntries_of_serves hserves, List.append_nil] at hevents
  exact ⟨hassembly, runs.events, hruns.runsOf, hevents⟩

/-- All other backends are replaced. -/
theorem optimize_rebuilt {s resolved : Session kit} {request : Request}
    (h : s.resolve = .ok (request, resolved)) (hsuits : ¬s.backends.Suits request)
    (condition : kit.Condition) :
    s.Rebuilt request resolved.workshop.nextSerial (s.optimize condition).1 := by
  have hbackends : resolved.backends = s.backends := (resolve_aside h).backends
  have hserves := Backends.serves_eq_false hsuits
  rw [← hbackends] at hserves
  have hcarried := optimize_of_ok h condition
  have hassembly : (s.optimize condition).1.backends.assembly =
      request.assembly resolved.workshop.nextSerial := by
    rw [hcarried.assembly, alignedAssembly, hserves, if_neg Bool.false_ne_true]
  obtain ⟨runs, hruns, hevents⟩ := hcarried.events
  obtain ⟨hresolved, -⟩ := events_resolve h
  rw [Backends.roster, hassembly] at hruns
  refine ⟨hassembly, (resolved.withoutBackends.partings s.backends.bound?).events, runs.events,
    fun event hevent => eq_dropped_of_mem_partings hevent, hruns.runsOf, ?_⟩
  rw [hevents, hresolved, events_transitionEntries_of_not_serves hserves, hbackends]
  simp only [List.append_assoc]

/-- The same options and the same model resolve to the same request again. -/
theorem resolve_of_agree {s s' resolved : Session kit} {request : Request}
    (h : s.resolve = .ok (request, resolved)) (hoptions : s'.options = s.options)
    (hown : s'.subproblem = resolved.subproblem) : s'.resolve = .ok (request, s') := by
  obtain ⟨algorithm, halgorithm, hrequest⟩ := bind_eq_ok.mp h
  rw [← hoptions] at halgorithm
  refine bind_eq_ok.mpr ⟨algorithm, halgorithm, ?_⟩
  cases algorithm with
  | interiorPoint =>
    obtain ⟨checkpoint, hcheckpoint, hpure⟩ := bind_eq_ok.mp hrequest
    cases hpure
    rw [← hoptions] at hcheckpoint
    exact bind_eq_ok.mpr ⟨checkpoint, hcheckpoint, rfl⟩
  | trustRegion =>
    obtain ⟨⟨handle, ensured⟩, -, hpure⟩ := bind_eq_ok.mp hrequest
    cases hpure
    have hhandle := subproblem_of_resolve h handle rfl
    refine bind_eq_ok.mpr ⟨(handle, s'), ?_, rfl⟩
    rw [ensureSubproblem, hown, hhandle]
  | movingAsymptotes =>
    cases hrequest
    rfl

/-- A resolved call leaves backends that suit its request. -/
theorem suits_optimize {s resolved : Session kit} {request : Request}
    (h : s.resolve = .ok (request, resolved)) (condition : kit.Condition) :
    (s.optimize condition).1.backends.Suits request := by
  have hassembly := (optimize_of_ok h condition).assembly
  constructor
  · rw [Backends.state_eq, hassembly]
    exact resolved.alignedAssembly_algorithm? request
  · rintro handle rfl
    rw [Backends.bound?_eq, hassembly, alignedAssembly]
    split
    next hserves =>
      rw [← Backends.bound?_eq]
      exact eq_of_beq hserves
    next => rfl

/-- After a call that was not refused, a second one is not refused either and reuses the backends
of the first, whether that one succeeded or failed. -/
theorem retry_reused {s : Session kit} (hstocked : s.Stocked) {condition : kit.Condition}
    (h : isRefusal (s.optimize condition).2 = false) (again : kit.Condition) :
    let s' := (s.optimize condition).1
    isRefusal (s'.optimize again).2 = false ∧ s'.Reused (s'.optimize again).1 := by
  intro s'
  obtain ⟨request, resolved, hresolve⟩ := exists_resolve_of_not_refused h
  have hcarried := optimize_of_ok hresolve condition
  have hagain : s'.resolve = .ok (request, s') :=
    resolve_of_agree hresolve (s.options_optimize condition) hcarried.subproblem
  refine ⟨not_refused_of_resolve hagain again, ?_⟩
  exact optimize_reused (optimize_stocked hstocked condition) hagain
    (suits_optimize hresolve condition) again

/-- While the coordinator's model is the one that the live backends are bound to, calls of the
trust-region strategy reuse them. -/
theorem bound_reused {s : Session kit} (hstocked : s.Stocked) {handle : Nat}
    (hown : s.subproblem = some handle) (hbound : s.backends.bound? = some handle)
    (halgorithm : s.options.readAlgorithm = .ok .trustRegion) (condition : kit.Condition) :
    isRefusal (s.optimize condition).2 = false ∧ s.Reused (s.optimize condition).1 := by
  have hresolve : s.resolve = .ok (.trustRegion handle, s) := by
    refine bind_eq_ok.mpr ⟨.trustRegion, halgorithm, bind_eq_ok.mpr ⟨(handle, s), ?_, rfl⟩⟩
    rw [ensureSubproblem, hown]
  have hsuits : s.backends.Suits (.trustRegion handle) :=
    Backends.serves_iff_suits.mp (beq_iff_eq.mpr hbound)
  exact ⟨not_refused_of_resolve hresolve condition,
    optimize_reused hstocked hresolve hsuits condition⟩

/-- Without a model of its own, the coordinator replaces all backends in a call of the
trust-region strategy, and builds them on a fresh model. -/
theorem cleared_rebuilt {s : Session kit} (hstocked : s.Stocked) (hnone : s.subproblem = none)
    (halgorithm : s.options.readAlgorithm = .ok .trustRegion) {condition : kit.Condition}
    (h : isRefusal (s.optimize condition).2 = false) :
    s.modelBuilds (.trustRegion s.workshop.nextSerial) = [.built .curvature s.workshop.nextSerial] ∧
      (s.optimize condition).1.subproblem = some s.workshop.nextSerial ∧
      s.Rebuilt (.trustRegion s.workshop.nextSerial) (s.workshop.nextSerial + 1)
        (s.optimize condition).1 := by
  obtain ⟨request, resolved, hresolve⟩ := exists_resolve_of_not_refused h
  have hcarried := optimize_of_ok hresolve condition
  obtain ⟨hread, ⟨rfl, hown⟩ | ⟨-, rfl, kind, size, -, rfl⟩⟩ := resolve_cases hresolve
  · have hrequest : request.algorithm = .trustRegion :=
      Except.ok.inj (hread.symm.trans halgorithm)
    cases request with
    | interiorPoint checkpoint => cases hrequest
    | trustRegion handle =>
      rw [hown handle rfl] at hnone
      cases hnone
    | asymptotes => cases hrequest
  · exact ⟨if_pos ⟨hnone, rfl⟩, hcarried.subproblem,
      optimize_rebuilt hresolve (not_suits_nextSerial hstocked) condition⟩

end Session

/-- Whether an event is the building of an interior-point backend. -/
def Event.isInteriorBuild : Event → Bool
  | .built (.interiorPoint _) _ => true
  | _ => false

/-- Events of models build no interior-point backend. -/
theorem ModelEvents.countP_isInteriorBuild {next final : Nat} {events : List Event}
    (h : ModelEvents next events final) : events.countP Event.isInteriorBuild = 0 := by
  rw [List.countP_eq_zero]
  intro event hevent
  obtain ⟨serial, rfl | rfl⟩ := h.of_mem event hevent
  · exact Bool.false_ne_true
  · exact Bool.false_ne_true

/-- A run builds no interior-point backend. -/
theorem RunsOf.countP_isInteriorBuild {roster : List (Role × Nat)} {events : List Event}
    (h : RunsOf roster events) : events.countP Event.isInteriorBuild = 0 := by
  rw [List.countP_eq_zero]
  intro event hevent
  rcases h.2 event hevent with ⟨path, rfl⟩ | ⟨backend, -, rfl⟩
  · exact Bool.false_ne_true
  · exact Bool.false_ne_true

/-- For each request one interior-point backend is built. -/
theorem Request.countP_isInteriorBuild (request : Request) (next : Nat) :
    ((request.builds next).map fun backend => Event.built backend.1 backend.2).countP
      Event.isInteriorBuild = 1 := by
  cases request <;> rfl

namespace Session

/-- Reused backends are not built. -/
theorem Reused.countP_isInteriorBuild {s s' : Session kit} (h : s.Reused s') :
    s'.events.countP Event.isInteriorBuild = s.events.countP Event.isInteriorBuild := by
  obtain ⟨runs, hruns, hevents⟩ := h.events
  rw [hevents, List.countP_append, hruns.countP_isInteriorBuild, Nat.add_zero]

/-- Replaced backends are built, with one interior-point backend among them. -/
theorem Rebuilt.countP_isInteriorBuild {s s' : Session kit} {request : Request} {next : Nat}
    (h : s.Rebuilt request next s') :
    s'.events.countP Event.isInteriorBuild = s.events.countP Event.isInteriorBuild + 1 := by
  obtain ⟨partings, runs, hpartings, hruns, hevents⟩ := h.events
  have hmodels : (s.modelBuilds request).countP Event.isInteriorBuild = 0 := by
    unfold modelBuilds
    split
    · rfl
    · rfl
  have hdrops : (s.backends.roster.map fun backend => Event.dropped backend.1 backend.2).countP
      Event.isInteriorBuild = 0 := by
    rw [List.countP_eq_zero]
    intro event hevent
    obtain ⟨backend, -, rfl⟩ := List.mem_map.mp hevent
    exact Bool.false_ne_true
  have hparted : partings.countP Event.isInteriorBuild = 0 := by
    rw [List.countP_eq_zero]
    intro event hevent
    obtain ⟨bound, -, rfl⟩ := hpartings event hevent
    exact Bool.false_ne_true
  rw [hevents]
  simp only [List.countP_append, hmodels, hdrops, hparted, hruns.countP_isInteriorBuild,
    request.countP_isInteriorBuild, Nat.zero_add, Nat.add_zero]

end Session

variable [Scalar R]

/-- Whether a step is a call that passes the checks of the configuration and finds live backends
that do not suit its request. -/
def Step.findsUnsuited (step : Step kit) : Bool :=
  match step.operation, step.before.resolve with
  | .optimize _, .ok (request, _) => !decide (step.before.backends.Suits request)
  | _, _ => false

/-- A step builds an interior-point backend if it finds live backends that do not suit, and
otherwise builds none. -/
theorem Step.countP_isInteriorBuild (step : Step kit) (hstocked : step.before.Stocked) :
    step.after.events.countP Event.isInteriorBuild =
      step.before.events.countP Event.isInteriorBuild + if step.findsUnsuited then 1 else 0 := by
  cases step.kind with
  | aside haside =>
    have hfinds : step.findsUnsuited = false := by
      unfold findsUnsuited
      split
      next condition _ _ heq _ => exact absurd heq (haside condition)
      next => rfl
    rw [events_after, List.countP_append, (step.modelEvents haside).countP_isInteriorBuild, hfinds]
    rfl
  | @refused s e condition hresolve =>
    have hfinds : (Step.mk s (.optimize condition)).findsUnsuited = false := by
      rw [findsUnsuited, hresolve]
    rw [events_after, events_of_log (after_of_error hresolve condition), List.append_nil, hfinds]
    rfl
  | @carriedOut s resolved request condition hresolve =>
    have hfinds : (Step.mk s (.optimize condition)).findsUnsuited =
        !decide (s.backends.Suits request) := by
      rw [findsUnsuited, hresolve]
    rw [hfinds]
    by_cases hsuits : s.backends.Suits request
    · rw [decide_eq_true hsuits]
      exact (Session.optimize_reused hstocked hresolve hsuits condition).countP_isInteriorBuild
    · rw [decide_eq_false hsuits]
      exact (Session.optimize_rebuilt hresolve hsuits condition).countP_isInteriorBuild

namespace Session

/-- Over a history, interior-point backends are built in the steps that find live backends that do
not suit, and in no others. -/
theorem countP_isInteriorBuild_performAll {s : Session kit} (hstocked : s.Stocked)
    (operations : List (Operation kit)) :
    (s.performAll operations).events.countP Event.isInteriorBuild =
      s.events.countP Event.isInteriorBuild +
        (s.steps operations).countP Step.findsUnsuited := by
  induction operations generalizing s with
  | nil => rfl
  | cons operation rest ih =>
    have hstep := (Step.mk s operation).countP_isInteriorBuild hstocked
    have hrest := ih (s.perform_stocked operation hstocked)
    rw [steps, List.countP_cons]
    calc ((s.perform operation).1.performAll rest).events.countP Event.isInteriorBuild
        = (s.perform operation).1.events.countP Event.isInteriorBuild +
            ((s.perform operation).1.steps rest).countP Step.findsUnsuited := hrest
      _ = s.events.countP Event.isInteriorBuild +
            (if (Step.mk s operation).findsUnsuited then 1 else 0) +
            ((s.perform operation).1.steps rest).countP Step.findsUnsuited :=
          congrArg (· + _) hstep
      _ = s.events.countP Event.isInteriorBuild +
            (((s.perform operation).1.steps rest).countP Step.findsUnsuited +
              if (Step.mk s operation).findsUnsuited then 1 else 0) := by omega

/-- Putting the model in place that the live backends are bound to lets calls of the trust-region
strategy reuse them. -/
theorem reinjected_reused {s : Session kit} (hstocked : s.Stocked) {name : String} {handle : Nat}
    (hheld : s.held.find? name = some handle) (hbound : s.backends.bound? = some handle)
    (halgorithm : s.options.readAlgorithm = .ok .trustRegion) (condition : kit.Condition) :
    let s' := (s.perform (.injectHeld name)).1
    isRefusal (s'.optimize condition).2 = false ∧ s'.Reused (s'.optimize condition).1 := by
  intro s'
  have hs' : s' = s.setSubproblem handle := by
    show s.setHeldSubproblem name = _
    rw [setHeldSubproblem, hheld]
  obtain ⟨hown, hoptions⟩ := s.setSubproblem_eq handle
  have hbackends := (s.setSubproblem_aside handle).backends
  have hstocked' := s.perform_stocked (.injectHeld name) hstocked
  rw [← hs'] at hown hoptions hbackends
  rw [← hbackends] at hbound
  rw [← hoptions] at halgorithm
  exact bound_reused hstocked' hown hbound halgorithm condition

/-- In every reachable state, a call that passes the checks of the configuration reuses live
backends that suit its request and replaces all others. So over a history as many interior-point
backends are built as there were calls that found unsuited ones. A retry reuses the backends, also
after a failure, and so does a call after the model that they are bound to was put in place again;
after the coordinator's model was given up, a call of the trust-region strategy builds everything
anew. -/
theorem backends_reused_exactly (problem : Problem R) (options : OptionStore)
    (operations : List (Operation kit)) :
    let start := new kit problem options
    let s := start.performAll operations
    (∀ condition, isRefusal (s.optimize condition).2 = false → ∃ request resolved,
      s.resolve = .ok (request, resolved) ∧ s.options.readAlgorithm = .ok request.algorithm ∧
        (∀ handle, request = .trustRegion handle →
          (s.optimize condition).1.subproblem = some handle) ∧
        (s.backends.Suits request → s.Reused (s.optimize condition).1) ∧
        (¬s.backends.Suits request →
          s.Rebuilt request resolved.workshop.nextSerial (s.optimize condition).1)) ∧
    s.events.countP Event.isInteriorBuild =
      (start.steps operations).countP Step.findsUnsuited ∧
    (∀ condition again, isRefusal (s.optimize condition).2 = false →
      let s' := (s.optimize condition).1
      isRefusal (s'.optimize again).2 = false ∧ s'.Reused (s'.optimize again).1) ∧
    (∀ name handle condition, s.held.find? name = some handle →
      s.backends.bound? = some handle → s.options.readAlgorithm = .ok .trustRegion →
      let s' := (s.perform (.injectHeld name)).1
      isRefusal (s'.optimize condition).2 = false ∧ s'.Reused (s'.optimize condition).1) ∧
    (s.perform .clear).1.subproblem = none ∧
    ∀ condition, s.subproblem = none → s.options.readAlgorithm = .ok .trustRegion →
      isRefusal (s.optimize condition).2 = false →
      let fresh := s.workshop.nextSerial
      s.modelBuilds (.trustRegion fresh) = [.built .curvature fresh] ∧
        (s.optimize condition).1.subproblem = some fresh ∧
        s.Rebuilt (.trustRegion fresh) (fresh + 1) (s.optimize condition).1 := by
  intro start s
  have hstocked : s.Stocked := performAll_stocked problem options operations
  refine ⟨?_, ?_, ?_, ?_, ?_, ?_⟩
  · intro condition h
    obtain ⟨request, resolved, hresolve⟩ := exists_resolve_of_not_refused h
    have hown := subproblem_of_resolve hresolve
    rw [← (optimize_of_ok hresolve condition).subproblem] at hown
    exact ⟨request, resolved, hresolve, (resolve_cases hresolve).1, hown,
      fun hsuits => optimize_reused hstocked hresolve hsuits condition,
      fun hsuits => optimize_rebuilt hresolve hsuits condition⟩
  · have hcount := countP_isInteriorBuild_performAll (new_stocked kit problem options) operations
    exact hcount.trans (Nat.zero_add _)
  · intro condition again h
    exact retry_reused hstocked h again
  · intro name handle condition hheld hbound halgorithm
    exact reinjected_reused hstocked hheld hbound halgorithm condition
  · show s.clearSubproblem.subproblem = none
    rw [clearSubproblem, replaceHandle, letGo_eq]
  · intro condition hnone halgorithm h
    exact cleared_rebuilt hstocked hnone halgorithm h

/-- With the standard solvers and the default options, the first call builds backends, and later
ones reuse them: as a retry, and with the bound model put in place again. Once the model is given
up, they are replaced. -/
theorem standard_reused :
    let kit := ElementarySolvers.standard.kit
    let problem : Problem Binary64 := Problem.ofBounds [] 0
    let start := new kit problem (OptionStore.empty.addDefaults kit.registerOptions).1
    let ran := start.performAll [.optimize none]
    let held := start.performAll [.optimize none, .hold "model"]
    let injected := (held.perform (.injectHeld "model")).1
    let cleared := start.performAll [.optimize none, .clear]
    start.Rebuilt (.trustRegion 0) 1 ran ∧
    ran.Reused (ran.optimize none).1 ∧
    injected.Reused (injected.optimize none).1 ∧
    cleared.Rebuilt (.trustRegion 3) 4 (cleared.optimize none).1 := by
  intro kit problem start ran held injected cleared
  have hstart : isRefusal (start.optimize none).2 = false := by decide
  have hcleared : isRefusal (cleared.optimize none).2 = false := by decide
  obtain ⟨hfirst, -, hretry, -⟩ :=
    backends_reused_exactly problem start.options ([] : List (Operation kit))
  obtain ⟨-, -, -, hinjected, -⟩ := backends_reused_exactly problem start.options
    ([.optimize none, .hold "model"] : List (Operation kit))
  obtain ⟨-, -, -, -, -, hnone⟩ := backends_reused_exactly problem start.options
    ([.optimize none, .clear] : List (Operation kit))
  refine ⟨?_, ?_, ?_, ?_⟩
  · obtain ⟨request, resolved, hresolve, -, -, -, hrebuilt⟩ := hfirst none hstart
    cases hresolve
    exact hrebuilt (by decide)
  · exact (hretry none none hstart).2
  · exact (hinjected "model" 0 none rfl rfl rfl).2
  · exact (hnone none rfl rfl hcleared).2.2

end Session

end StrategyCoordinator
