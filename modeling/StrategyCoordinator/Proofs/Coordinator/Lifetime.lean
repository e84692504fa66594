import StrategyCoordinator.Proofs.Coordinator.StepEvents

/-!
# Lifetimes of backends

The events of a coordinator keep the roll of its live backends: after every history the roll
shows the backends of the present state and the next serial number. A switch first takes the
old backends off the roll, the outer one first, and then puts the new ones on it; dropping the
coordinator takes off whatever is left.
-/

namespace StrategyCoordinator

namespace Roll

/-- Backends on the roll can be dropped in order, the outer one first. -/
theorem follows_drops (next : Nat) (live : List (Role × Nat)) :
    Follows ⟨next, live⟩ (live.map fun backend => .dropped backend.1 backend.2) ⟨next, []⟩ := by
  induction live with
  | nil => exact .nil _
  | cons backend rest ih => exact .cons (.drop next backend.1 backend.2 rest) ih

/-- The backends for a request can be built when no backend is left. -/
theorem follows_builds (next : Nat) (request : Request) :
    Follows ⟨next, []⟩ ((request.builds next).map fun backend => .built backend.1 backend.2)
      ⟨next + (request.builds next).length, (request.assembly next).roster⟩ := by
  have hinner (kind : TargetKind) : (Role.interiorPoint kind).IsInner := trivial
  have hnext : next ≤ next := Nat.le_refl next
  have hlater : next + 1 ≤ next + 1 := Nat.le_refl (next + 1)
  cases request with
  | interiorPoint checkpoint => exact .one (.buildFirst hnext (Or.inr (hinner .problem)))
  | trustRegion handle =>
    exact .cons (.buildFirst hnext (Or.inr (hinner .subproblem)))
      (.one (.buildOuter hlater trivial (hinner .subproblem)))
  | asymptotes =>
    exact .cons (.buildFirst hnext (Or.inl trivial))
      (.one (.buildInner hlater trivial (hinner .surrogate)))

/-- Live backends can be run. -/
theorem follows_runs (next : Nat) {live : List (Role × Nat)} {entries : Journal}
    (h : ∀ entry ∈ entries, entry.ReportsRun live) :
    Follows ⟨next, live⟩ entries.events ⟨next, live⟩ := by
  induction entries with
  | nil => exact .nil _
  | cons entry rest ih =>
    have hrest := ih fun other hother => h other (List.mem_cons_of_mem _ hother)
    rcases h entry List.mem_cons_self with ⟨path, rfl⟩ | ⟨backend, hbackend, rfl⟩
    · exact .cons (.checkpoint _ path) hrest
    · exact .cons (.ran _ hbackend) hrest

end Roll

variable {R : Type} {kit : SolverKit R}

namespace Session

/-- The roll of a state: its live backends and the next serial number. -/
def roll (s : Session kit) : Roll :=
  ⟨s.workshop.nextSerial, s.backends.roster⟩

/-- Letting go of a model is allowed at any time. -/
theorem follows_partings (s : Session kit) (handle : Option Nat) (roll : Roll) :
    Roll.Follows roll (s.partings handle).events roll := by
  rcases s.events_partings handle with h | ⟨serial, -, h⟩
  · rw [h]
    exact .nil roll
  · rw [h]
    exact .one (.dropModel roll serial)

/-- What is done aside keeps the roll. -/
theorem Aside.follows {s s' : Session kit} (h : s.Aside s') :
    ∃ events, s'.events = s.events ++ events ∧ Roll.Follows s.roll events s'.roll := by
  obtain ⟨entries, hentries, hevents⟩ := h.journal
  refine ⟨entries.events, ?_, ?_⟩
  · rw [events, hentries, Journal.events_append]
    rfl
  · have hfollows := hevents.follows s.backends.roster
    rw [roll, roll, h.backends]
    exact hfollows

/-- A transition takes the old backends off the roll before it puts the new ones on it. -/
theorem follows_transition (s : Session kit) (request : Request) :
    Roll.Follows s.roll (s.transitionEntries request).events
      ⟨s.alignedSerial request, (s.alignedAssembly request).roster⟩ := by
  cases hserves : s.backends.serves request with
  | true =>
    rw [events_transitionEntries_of_serves hserves, alignedSerial, if_pos hserves,
      alignedAssembly, if_pos hserves]
    exact .nil _
  | false =>
    have hdropped := Roll.follows_drops s.workshop.nextSerial s.backends.roster
    have hparted := s.withoutBackends.follows_partings s.backends.bound?
      ⟨s.workshop.nextSerial, []⟩
    have hbuilt := Roll.follows_builds s.workshop.nextSerial request
    rw [events_transitionEntries_of_not_serves hserves, alignedSerial, alignedAssembly, hserves,
      if_neg Bool.false_ne_true, if_neg Bool.false_ne_true]
    exact hdropped.append (hparted.append hbuilt)

/-- A call that was resolved keeps the roll. -/
theorem CarriedOut.follows {resolved s' : Session kit} {request : Request}
    {answer : Except OptimizerError Unit} (h : resolved.CarriedOut request s' answer) :
    ∃ events, s'.events = resolved.events ++ events ∧
      Roll.Follows resolved.roll events s'.roll := by
  obtain ⟨runs, hruns, hevents⟩ := h.events
  have htransition := resolved.follows_transition request
  have hran := Roll.follows_runs s'.workshop.nextSerial hruns.reportsRun
  rw [← h.assembly, ← h.nextSerial] at htransition
  exact ⟨_, hevents.trans (List.append_assoc ..), htransition.append hran⟩

/-- Dropping the live backends drops each once, the outer one first, and then lets go of the
model that they were bound to. -/
theorem journal_dropBackends (s : Session kit) :
    s.dropBackends.workshop.journal = s.workshop.journal ++
      (s.backends.roster.map fun backend => .event (.dropped backend.1 backend.2)) ++
      s.withoutBackends.partings s.backends.bound? := by
  cases h : s.backends with
  | trustRegion tr ip bound =>
    simp only [dropBackends, h, letGo_eq]
    show s.workshop.journal ++ [_] ++ [_] ++ _ = s.workshop.journal ++ [_, _] ++ _
    rw [List.append_assoc s.workshop.journal]
    -- Who holds the bound model does not change while its backends are dropped.
    rfl
  | uninitialized | interiorPoint ip | asymptotes mma ip =>
    simp [dropBackends, h, withoutBackends, partings, putAwaySurrogate, dropInteriorPoint,
      dropAsymptotes, happen, Workshop.happen, Backends.bound?, Backends.roster,
      Backends.assembly, Assembly.roster]

/-- The same, said of the events. -/
theorem events_dropBackends (s : Session kit) :
    s.dropBackends.events =
      s.events ++ (s.backends.roster.map fun backend => .dropped backend.1 backend.2) ++
        (s.withoutBackends.partings s.backends.bound?).events := by
  rw [events, journal_dropBackends, Journal.events_append, Journal.events_append]
  congr 2
  simp [Journal.events, List.filterMap_map, Function.comp_def, JournalEntry.event?]

/-- Dropping the coordinator drops the live backends, and after that at most models. -/
theorem events_dispose (s : Session kit) :
    ∃ partings, s.dispose.events = s.events ++
        (s.backends.roster.map fun backend => .dropped backend.1 backend.2) ++ partings ∧
      ∀ roll, Roll.Follows roll partings roll := by
  obtain ⟨parted, hown, hparted⟩ : ∃ parted, s.dispose.events = s.dropBackends.events ++ parted ∧
      ∀ roll, Roll.Follows roll parted roll := by
    show ∃ parted, Journal.events (Session.letGo _ _).workshop.journal = _ ∧ _
    rw [letGo_eq, Journal.events_append]
    exact ⟨_, rfl, follows_partings _ _⟩
  refine ⟨(s.withoutBackends.partings s.backends.bound?).events ++ parted, ?_, fun roll => ?_⟩
  · rw [hown, s.events_dropBackends, List.append_assoc]
  · exact (s.withoutBackends.follows_partings _ roll).append (hparted roll)

/-- Dropping the coordinator takes every backend off the roll. -/
theorem follows_dispose (s : Session kit) :
    ∃ events, s.dispose.events = s.events ++ events ∧
      Roll.Follows s.roll events ⟨s.workshop.nextSerial, []⟩ := by
  obtain ⟨partings, hevents, hparted⟩ := s.events_dispose
  have hdropped := Roll.follows_drops s.workshop.nextSerial s.backends.roster
  refine ⟨_, hevents.trans (List.append_assoc ..), hdropped.append (hparted _)⟩

variable [Scalar R]

/-- Every operation keeps the roll. -/
theorem follows_perform (s : Session kit) (operation : Operation kit) :
    ∃ events, (s.perform operation).1.events = s.events ++ events ∧
      Roll.Follows s.roll events (s.perform operation).1.roll := by
  cases (Step.mk s operation).kind with
  | aside haside => exact (s.perform_aside haside).follows
  | refused condition hresolve =>
    have hafter : (s.perform (.optimize condition)).1 = s.log (.refused _) :=
      Step.after_of_error hresolve condition
    rw [hafter]
    exact (s.log_aside _).follows
  | carriedOut condition hresolve =>
    obtain ⟨built, hbuilt, hfollows⟩ := (resolve_aside hresolve).follows
    obtain ⟨run, hrun, hfollows'⟩ := (optimize_of_ok hresolve condition).follows
    refine ⟨built ++ run, ?_, hfollows.append hfollows'⟩
    rw [← List.append_assoc, ← hbuilt]
    exact hrun

/-- After every history the roll kept along the events is that of the present state. -/
theorem follows_performAll (problem : Problem R) (options : OptionStore)
    (operations : List (Operation kit)) :
    Roll.Follows .start ((new kit problem options).performAll operations).events
      ((new kit problem options).performAll operations).roll := by
  refine performAll_invariant (P := fun s => Roll.Follows .start s.events s.roll) ?_ (.nil _)
    operations
  intro s operation hs
  obtain ⟨events, hevents, hfollows⟩ := s.follows_perform operation
  rw [hevents]
  exact hs.append hfollows

end Session

/-- Whatever cannot come after an entry stands before it. -/
theorem isPrefix_of_not_mem {α : Type} {before after past : List α} {entry : α}
    (h : past ++ [entry] <+: before ++ after) (hentry : entry ∉ before) : before <+: past := by
  rcases List.prefix_or_prefix_of_prefix (List.prefix_append before after) h with hbefore | hpast
  · rcases List.prefix_concat_iff.mp hbefore with heq | hbefore
    · exact absurd (heq ▸ List.mem_concat_self) hentry
    · exact hbefore
  · exact absurd (hpast.subset List.mem_concat_self) hentry

/-- Events of models build no backend. -/
theorem ModelEvents.not_built {next final : Nat} {events : List Event}
    (h : ModelEvents next events final) {role : Role} (hrole : role.IsBackend) (serial : Nat) :
    .built role serial ∉ events := by
  intro hmem
  obtain ⟨number, heq | heq⟩ := h.of_mem _ hmem
  · obtain ⟨rfl, -⟩ := Event.built.inj heq
    exact Role.not_isBackend_curvature hrole
  · cases heq

/-- Letting go of a model builds nothing. -/
theorem Session.not_built_of_partings (s : Session kit) (handle : Option Nat) (role : Role)
    (serial : Nat) : .built role serial ∉ (s.partings handle).events := by
  intro hmem
  obtain ⟨other, -, heq⟩ := eq_dropped_of_mem_partings hmem
  cases heq

/-- A run builds nothing. -/
theorem Journal.IsRunOf.not_built {roster : List (Role × Nat)} {runs : Journal}
    (h : runs.IsRunOf roster) (role : Role) (serial : Nat) : .built role serial ∉ runs.events := by
  intro hmem
  rcases Journal.ran_or_checkpoint_of_mem h.reportsRun hmem with ⟨path, heq⟩ | ⟨backend, -, heq⟩
  · cases heq
  · cases heq

variable [Scalar R]

/-- A call that replaces the live backends has dropped all of them before it builds the first. -/
theorem Step.events_of_replaced {s resolved : Session kit} {request : Request}
    (h : s.resolve = .ok (request, resolved)) (hserves : resolved.backends.serves request = false)
    (condition : kit.Condition) :
    ∃ (before : List Event) (runs : Journal),
      runs.IsRunOf (s.optimize condition).1.backends.roster ∧
      (Step.mk s (.optimize condition)).events =
        before ++ (((request.builds resolved.workshop.nextSerial).map fun backend =>
          .built backend.1 backend.2) ++ runs.events) ∧
      (∀ backend ∈ s.backends.roster, .dropped backend.1 backend.2 ∈ before) ∧
      ∀ role serial, role.IsBackend → .built role serial ∉ before := by
  obtain ⟨runs, hruns, hevents⟩ := events_of_resolved h condition
  obtain ⟨-, hmodels⟩ := Session.events_resolve h
  have hbackends : resolved.backends = s.backends := (Session.resolve_aside h).backends
  let drops : List Event := s.backends.roster.map fun backend => .dropped backend.1 backend.2
  let partings : List Event := (resolved.withoutBackends.partings s.backends.bound?).events
  refine ⟨s.modelBuilds request ++ (drops ++ partings), runs, hruns, ?_, ?_, ?_⟩
  · rw [hevents, Session.events_transitionEntries_of_not_serves hserves, hbackends]
    simp only [drops, partings, List.append_assoc]
  · intro backend hbackend
    have hdropped : .dropped backend.1 backend.2 ∈ drops :=
      List.mem_map_of_mem (f := fun backend => Event.dropped backend.1 backend.2) hbackend
    exact List.mem_append_right _ (List.mem_append_left _ hdropped)
  · intro role serial hrole
    have hdrop : .built role serial ∉ drops := by simp [drops]
    have hparting := resolved.withoutBackends.not_built_of_partings s.backends.bound? role serial
    rw [List.mem_append, List.mem_append]
    exact fun h => h.elim (hmodels.not_built hrole serial) fun h => h.elim hdrop hparting

/-- A backend that is built in a resolved call is live after it, and whatever was live before the
call was dropped earlier in it. -/
theorem Step.built_of_resolved {s resolved : Session kit} {request : Request}
    (h : s.resolve = .ok (request, resolved)) (condition : kit.Condition) {past : List Event}
    {role : Role} {serial : Nat} (hrole : role.IsBackend)
    (hpast : past ++ [.built role serial] <+: (Step.mk s (.optimize condition)).events) :
    (∀ backend ∈ s.backends.roster, .dropped backend.1 backend.2 ∈ past) ∧
      (role, serial) ∈ (s.optimize condition).1.backends.roster := by
  have hbuilt := hpast.subset List.mem_concat_self
  cases hserves : resolved.backends.serves request with
  | true =>
    obtain ⟨runs, hruns, hevents⟩ := events_of_resolved h condition
    obtain ⟨-, hmodels⟩ := Session.events_resolve h
    rw [hevents, Session.events_transitionEntries_of_serves hserves, List.nil_append] at hbuilt
    exact (List.mem_append.mp hbuilt).elim (absurd · (hmodels.not_built hrole serial))
      (absurd · (hruns.not_built role serial))
  | false =>
    obtain ⟨before, runs, hruns, hevents, hdropped, hnot⟩ := events_of_replaced h hserves condition
    have hnew : .built role serial ∉ before := hnot role serial hrole
    rw [hevents] at hpast hbuilt
    constructor
    · -- Nothing is built before the builds, so whatever stands there stands in the past.
      intro backend hbackend
      exact (isPrefix_of_not_mem hpast hnew).subset (hdropped backend hbackend)
    · rcases List.mem_append.mp hbuilt with hbuilt | hbuilt
      · exact absurd hbuilt hnew
      rcases List.mem_append.mp hbuilt with hbuilt | hbuilt
      · obtain ⟨backend, hbackend, heq⟩ := List.mem_map.mp hbuilt
        obtain ⟨rfl, rfl⟩ := Event.built.inj heq
        rw [Backends.roster, (Session.optimize_of_ok h condition).assembly,
          Session.alignedAssembly, hserves, if_neg Bool.false_ne_true]
        exact (request.builds_perm_roster _).mem_iff.mp hbackend
      · exact absurd hbuilt (hruns.not_built role serial)

/-- A backend that is built in a step is live after it, and whatever was live before the step
was dropped earlier in it. -/
theorem Step.dropped_before_built (step : Step kit) {past : List Event} {role : Role}
    {serial : Nat} (hrole : role.IsBackend) (hpast : past ++ [.built role serial] <+: step.events) :
    (∀ backend ∈ step.before.backends.roster, .dropped backend.1 backend.2 ∈ past) ∧
      (role, serial) ∈ step.after.backends.roster := by
  have hbuilt : .built role serial ∈ step.events := hpast.subset List.mem_concat_self
  cases step.kind with
  | aside haside => exact absurd hbuilt ((step.modelEvents haside).not_built hrole serial)
  | refused condition hresolve =>
    rw [events_of_log (after_of_error hresolve condition)] at hbuilt
    exact absurd hbuilt List.not_mem_nil
  | carriedOut condition hresolve => exact built_of_resolved hresolve condition hrole hpast

namespace Session

/-- The events up to the drop of the coordinator. -/
theorem follows_trace (problem : Problem R) (options : OptionStore)
    (operations : List (Operation kit)) :
    ∃ next, Roll.Follows .start ((new kit problem options).performAll operations).dispose.events
      ⟨next, []⟩ := by
  obtain ⟨events, hevents, hfollows⟩ :=
    ((new kit problem options).performAll operations).follows_dispose
  rw [hevents]
  exact ⟨_, (follows_performAll problem options operations).append hfollows⟩

/-- Between operations exactly the backends of the present state live. -/
theorem lives_iff_mem_roster (problem : Problem R) (options : OptionStore)
    (operations : List (Operation kit)) {role : Role} (hrole : role.IsBackend) (serial : Nat) :
    Lives ((new kit problem options).performAll operations).events role serial ↔
      (role, serial) ∈ ((new kit problem options).performAll operations).backends.roster :=
  (follows_performAll problem options operations).tracks.lives role serial hrole

/-- After each step of a history the roll kept along the events is that of the state. -/
theorem follows_step {problem : Problem R} {options : OptionStore}
    {operations : List (Operation kit)} {step : Step kit}
    (h : step ∈ (new kit problem options).steps operations) :
    Roll.Follows .start step.after.events step.after.roll := by
  obtain ⟨done, rest, -, hbefore⟩ := exists_of_mem_steps h
  have hfollows := follows_performAll problem options (done ++ [step.operation])
  rw [performAll_append, ← hbefore] at hfollows
  exact hfollows

/-- Of an outer and an inner backend that a step builds, the outer one is dropped first. -/
theorem dropped_of_dropped_inner {trace : List Event} (horderly : Orderly trace) {step : Step kit}
    (hfollows : Roll.Follows .start step.after.events step.after.roll)
    (htrace : step.after.events <+: trace) {outer inner : Role} {serial serial' : Nat}
    (houter : outer.IsOuter) (hinner : inner.IsInner)
    (hbuilt : .built outer serial ∈ step.events) (hbuilt' : .built inner serial' ∈ step.events)
    {past : List Event} (hpast : past ++ [.dropped inner serial'] <+: trace) :
    .dropped outer serial ∈ past := by
  have hlives {role : Role} {number : Nat} (hrole : role.IsBackend)
      (hmem : .built role number ∈ step.events) : Lives step.after.events role number := by
    obtain ⟨before, after, hsplit⟩ := List.append_of_mem hmem
    have hstart : before ++ [.built role number] <+: step.events :=
      ⟨after, (List.append_cons ..).symm.trans hsplit.symm⟩
    exact (hfollows.tracks.lives role number hrole).mpr (step.dropped_before_built hrole hstart).2
  -- The step is over when the inner backend is dropped, since that one lives after it.
  have hafter : step.after.events <+: past := by
    obtain ⟨future, rfl⟩ := htrace
    exact isPrefix_of_not_mem hpast (hlives (Or.inr hinner) hbuilt').2
  have hbefore : .built outer serial ∈ past := hafter.subset (hlives (Or.inl houter) hbuilt).1
  by_cases hdropped : .dropped outer serial ∈ past
  · exact hdropped
  · have hlast := horderly.outerFirst past inner serial' hinner hpast outer serial houter
    exact absurd ⟨hbefore, hdropped⟩ hlast

/-- The events up to the drop of the coordinator are orderly, and none of its backends is left.
Between operations exactly the backends of the present state live. A step that builds backends
drops those of the state before it first, and of an outer and an inner backend that it builds the
outer one is dropped first. -/
theorem lifetimes_orderly (problem : Problem R) (options : OptionStore)
    (operations : List (Operation kit)) :
    let start := new kit problem options
    let trace := (start.performAll operations).dispose.events
    Orderly trace ∧
      (∀ role serial, role.IsBackend → ¬Lives trace role serial) ∧
      (∀ role serial, role.IsBackend → (Lives (start.performAll operations).events role serial ↔
        (role, serial) ∈ (start.performAll operations).backends.roster)) ∧
      ∀ step ∈ start.steps operations,
        step.before.events ++ step.events <+: trace ∧
        (∀ past role serial, role.IsBackend → past ++ [.built role serial] <+: step.events →
          ∀ backend ∈ step.before.backends.roster, .dropped backend.1 backend.2 ∈ past) ∧
        ∀ outer inner serial serial', outer.IsOuter → inner.IsInner →
          .built outer serial ∈ step.events → .built inner serial' ∈ step.events →
          ∀ past, past ++ [.dropped inner serial'] <+: trace → .dropped outer serial ∈ past := by
  intro start trace
  obtain ⟨next, hfollows⟩ := follows_trace problem options operations
  have horderly : Orderly trace := hfollows.orderly
  refine ⟨horderly, ?_, ?_, ?_⟩
  · intro role serial hrole hlives
    have hmem := (hfollows.tracks.lives role serial hrole).mp hlives
    exact absurd hmem List.not_mem_nil
  · intro role serial hrole
    exact lives_iff_mem_roster problem options operations hrole serial
  · intro step hstep
    have hafter : step.after.events <+: trace := by
      obtain ⟨events, hevents, -⟩ := (start.performAll operations).follows_dispose
      exact (start.events_after_prefix operations step hstep).trans ⟨events, hevents.symm⟩
    refine ⟨step.events_after ▸ hafter, ?_, ?_⟩
    · intro past role serial hrole hpast
      exact (step.dropped_before_built hrole hpast).1
    · intro outer inner serial serial' houter hinner hbuilt hbuilt' past hpast
      exact dropped_of_dropped_inner horderly (follows_step hstep) hafter houter hinner hbuilt
        hbuilt' hpast

end Session

end StrategyCoordinator
