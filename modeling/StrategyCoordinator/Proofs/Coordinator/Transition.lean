import StrategyCoordinator.Proofs.Coordinator.Assembly

/-!
# What a transition does

A transition either leaves everything as it is or replaces whatever is live. What is replaced
is discarded first, the outer backend before the inner one, then the model that the discarded
backends were bound to is let go, and only then the backends for the request are built. The
equations here give the journal of each step entry by entry and say what else it touches.
-/

namespace StrategyCoordinator

namespace Role

/-- The record that announces the discarding of a backend. -/
def discarding? : Role → Option LogRecord
  | .curvature => none
  | .interiorPoint _ => some .discardingInteriorPoint
  | .trustRegion => some .discardingTrustRegion
  | .asymptotes => some .discardingAsymptotes

/-- The record that announces the building of a backend. -/
def building? : Role → Option LogRecord
  | .curvature => none
  | .interiorPoint target => some (.buildingInteriorPoint target)
  | .trustRegion => some .buildingTrustRegion
  | .asymptotes => some .buildingAsymptotes

end Role

namespace Journal

/-- The entries of discarding backends, each announced before it is dropped. -/
def ofDiscards (backends : List (Role × Nat)) : Journal :=
  backends.flatMap fun backend =>
    (backend.1.discarding?.map .log).toList ++ [.event (.dropped backend.1 backend.2)]

/-- The entries of building backends, each announced before it is built. -/
def ofBuilds (backends : List (Role × Nat)) : Journal :=
  backends.flatMap fun backend =>
    (backend.1.building?.map .log).toList ++ [.event (.built backend.1 backend.2)]

/-- Announcements are no events. -/
theorem events_announcement (record : Option LogRecord) :
    Journal.events (record.map .log).toList = [] := by
  cases record <;> rfl

/-- Discarding drops each backend once, in order. -/
@[simp] theorem events_ofDiscards (backends : List (Role × Nat)) :
    (ofDiscards backends).events = backends.map fun backend => .dropped backend.1 backend.2 := by
  induction backends with
  | nil => rfl
  | cons backend rest ih =>
    rw [ofDiscards, List.flatMap_cons, events_append, events_append, events_announcement]
    exact congrArg _ ih

/-- Building enters each backend once, in order. -/
@[simp] theorem events_ofBuilds (backends : List (Role × Nat)) :
    (ofBuilds backends).events = backends.map fun backend => .built backend.1 backend.2 := by
  induction backends with
  | nil => rfl
  | cons backend rest ih =>
    rw [ofBuilds, List.flatMap_cons, events_append, events_append, events_announcement]
    exact congrArg _ ih

end Journal

variable {R : Type} {kit : SolverKit R}

namespace Session

/-- The events of a coordinator so far. -/
def events (s : Session kit) : List Event :=
  s.workshop.journal.events

/-- A log record is no event. -/
@[simp] theorem events_log (s : Session kit) (record : LogRecord) :
    (s.log record).events = s.events := by
  simp [events, log, Workshop.log, Journal.events, JournalEntry.event?]

/-- The entries of letting go of a model: its approximation is dropped, unless it is held. -/
def partings (s : Session kit) : Option Nat → Journal
  | none => []
  | some handle => if s.isHeld handle then [] else [.event (.dropped .curvature handle)]

/-- The models that are left after letting go of one. -/
def remainingModels (s : Session kit) : Option Nat → Shelf (QuadraticModel R kit.Curvature)
  | none => s.workshop.models
  | some handle =>
    if s.isHeld handle then s.workshop.models else s.workshop.models.remove handle

/-- Letting go of a model touches the models and the journal only. -/
theorem letGo_eq (s : Session kit) (handle : Option Nat) :
    s.letGo handle = { s with workshop :=
      { s.workshop with
        models := s.remainingModels handle
        journal := s.workshop.journal ++ s.partings handle } } := by
  cases handle with
  | none => simp [letGo, remainingModels, partings]
  | some handle =>
    by_cases hheld : s.isHeld handle = true
    · simp [letGo, remainingModels, partings, hheld]
    · simp [letGo, remainingModels, partings, hheld, happen, Workshop.happen]

/-- A held model is there after letting go of any, and the others stay as they were. -/
theorem get?_remainingModels (s : Session kit) (handle : Option Nat) {other : Nat}
    (h : s.isHeld other = true ∨ handle ≠ some other) :
    (s.remainingModels handle).get? other = s.workshop.models.get? other := by
  cases handle with
  | none => rfl
  | some handle =>
    by_cases hheld : s.isHeld handle = true
    · simp [remainingModels, hheld]
    · have hne : other ≠ handle := by
        rintro rfl
        exact h.elim hheld fun h => h rfl
      simpa [remainingModels, hheld] using Shelf.get?_remove_of_ne s.workshop.models hne

/-- The surrogates that are left when the live backends are discarded. -/
def remainingSurrogates (s : Session kit) : Shelf (Problem R) :=
  match s.backends with
  | .asymptotes mma _ => s.workshop.surrogates.remove mma.serial
  | _ => s.workshop.surrogates

/-- What letting go of the bound model enters and leaves, once the backends are discarded. -/
theorem discardBackends_eq (s : Session kit) :
    s.discardBackends = { s with
      backends := .uninitialized
      workshop :=
        { s.workshop with
          models := s.withoutBackends.remainingModels s.backends.bound?
          surrogates := s.remainingSurrogates
          journal := s.workshop.journal ++ Journal.ofDiscards s.backends.roster ++
            s.withoutBackends.partings s.backends.bound? } } := by
  cases h : s.backends with
  | trustRegion tr ip bound =>
    have hdiscards : s.workshop.journal ++
          Journal.ofDiscards (Backends.trustRegion tr ip bound).roster =
        s.workshop.journal ++ [.log .discardingTrustRegion] ++
          [.event (.dropped .trustRegion tr.serial)] ++ [.log .discardingInteriorPoint] ++
          [.event (.dropped (.interiorPoint ip.target.kind) ip.serial)] := by
      simp [Journal.ofDiscards, Backends.roster, Backends.assembly, Assembly.roster,
        Role.discarding?]
    simp only [discardBackends, h, letGo_eq, remainingSurrogates, hdiscards]
    -- Who holds the bound model does not change while its backends are dropped.
    rfl
  | uninitialized | interiorPoint ip | asymptotes mma ip =>
    simp [discardBackends, h, withoutBackends, remainingModels, partings,
      remainingSurrogates, putAwaySurrogate, dropInteriorPoint, dropAsymptotes,
      log, happen, Workshop.log, Workshop.happen, Backends.bound?, Backends.roster,
      Backends.assembly, Assembly.roster, Journal.ofDiscards, Role.discarding?]

/-- The record that live trust-region backends are bound to another model than requested. -/
def replacementNotice (s : Session kit) : Request → Journal
  | .trustRegion _ => if s.state = .trustRegionActive then [.log .boundSubproblemReplaced] else []
  | _ => []

/-- The notice is a log record. -/
@[simp] theorem events_replacementNotice (s : Session kit) (request : Request) :
    (s.replacementNotice request).events = [] := by
  cases request with
  | interiorPoint checkpoint => rfl
  | trustRegion handle =>
    show Journal.events (if _ then _ else _) = []
    split <;> rfl
  | asymptotes => rfl

/-- Letting go of a model enters at most that its approximation was dropped. -/
theorem events_partings (s : Session kit) (handle : Option Nat) :
    (s.partings handle).events = [] ∨
      ∃ serial, handle = some serial ∧
        (s.partings handle).events = [.dropped .curvature serial] := by
  cases handle with
  | none => exact Or.inl rfl
  | some serial =>
    by_cases hheld : s.isHeld serial = true
    · exact Or.inl (by simp [partings, hheld, Journal.events])
    · exact Or.inr ⟨serial, rfl, by simp [partings, hheld, Journal.events, JournalEntry.event?]⟩

/-- No other event is entered by letting go of a model. -/
theorem eq_dropped_of_mem_partings {s : Session kit} {handle : Option Nat} {event : Event}
    (h : event ∈ (s.partings handle).events) :
    ∃ serial, handle = some serial ∧ event = .dropped .curvature serial := by
  rcases s.events_partings handle with hnone | ⟨serial, hhandle, hone⟩
  · rw [hnone] at h
    exact absurd h List.not_mem_nil
  · rw [hone] at h
    exact ⟨serial, hhandle, List.mem_singleton.mp h⟩

/-- The live backends were replaced by fresh ones for a request, and all else was left. -/
structure ReplacedFor (s : Session kit) (request : Request) (s' : Session kit) : Prop where
  options : s'.options = s.options
  subproblem : s'.subproblem = s.subproblem
  held : s'.held = s.held
  assembly : s'.backends.assembly = request.assembly s.workshop.nextSerial
  problem : s'.workshop.problem = s.workshop.problem
  nextSerial : s'.workshop.nextSerial =
    s.workshop.nextSerial + (request.builds s.workshop.nextSerial).length
  models : s'.workshop.models = s.withoutBackends.remainingModels s.backends.bound?
  surrogate : request = .asymptotes →
    (s'.workshop.surrogates.get? s.workshop.nextSerial).isSome
  journal : s'.workshop.journal = s.workshop.journal ++ s.replacementNotice request ++
    Journal.ofDiscards s.backends.roster ++ s.withoutBackends.partings s.backends.bound? ++
    Journal.ofBuilds (request.builds s.workshop.nextSerial)

/-- Installing an interior-point backend replaces what is live. -/
theorem installInteriorPoint_replacedFor (s : Session kit) (checkpoint : Option String) :
    s.ReplacedFor (.interiorPoint checkpoint) s.installInteriorPoint := by
  unfold installInteriorPoint
  rw [discardBackends_eq]
  refine ⟨rfl, rfl, rfl, rfl, rfl, rfl, rfl, nofun, ?_⟩
  simp [Workshop.buildInteriorPoint, Workshop.count, Workshop.log, Workshop.happen,
    replacementNotice, Journal.ofBuilds, Request.builds, Role.building?, Target.kind]

/-- Installing trust-region backends on a model replaces what is live. -/
theorem installTrustRegion_replacedFor (s : Session kit) (handle : Nat) :
    s.ReplacedFor (.trustRegion handle) (s.installTrustRegion handle) := by
  have hlogged : (if s.state = .trustRegionActive then s.log .boundSubproblemReplaced else s) =
      { s with workshop :=
        { s.workshop with
          journal := s.workshop.journal ++ s.replacementNotice (.trustRegion handle) } } := by
    unfold replacementNotice
    split
    · rfl
    · simp
  simp only [installTrustRegion]
  rw [hlogged, discardBackends_eq]
  refine ⟨rfl, rfl, rfl, rfl, rfl, rfl, rfl, nofun, ?_⟩
  simp only [Workshop.buildInteriorPoint, Workshop.buildTrustRegion, Workshop.count, Workshop.log,
    Workshop.happen, Journal.ofBuilds, Request.builds, List.append_assoc]
  rfl

/-- Installing a moving-asymptotes backend replaces what is live. -/
theorem installAsymptotes_replacedFor (s : Session kit) :
    s.ReplacedFor .asymptotes s.installAsymptotes := by
  unfold installAsymptotes
  rw [discardBackends_eq]
  refine ⟨rfl, rfl, rfl, rfl, rfl, rfl, rfl, fun _ => ?_, ?_⟩
  · exact congrArg Option.isSome (Shelf.get?_put_self _ _ _)
  · simp [Workshop.buildAsymptotes, Workshop.buildInteriorPoint, Workshop.count, Workshop.log,
      Workshop.happen, replacementNotice, Journal.ofBuilds, Request.builds, Role.building?,
      Target.kind]

/-- A transition leaves backends that serve the request. -/
theorem transition_of_serves (s : Session kit) {request : Request}
    (h : s.backends.serves request = true) : s.transition request = s :=
  if_pos h

/-- A transition replaces backends that do not serve the request. -/
theorem transition_replacedFor (s : Session kit) {request : Request}
    (h : s.backends.serves request = false) :
    s.ReplacedFor request (s.transition request) := by
  unfold transition
  rw [if_neg (by simp [h])]
  cases request with
  | interiorPoint checkpoint => exact s.installInteriorPoint_replacedFor checkpoint
  | trustRegion handle => exact s.installTrustRegion_replacedFor handle
  | asymptotes => exact s.installAsymptotes_replacedFor

end Session

end StrategyCoordinator
