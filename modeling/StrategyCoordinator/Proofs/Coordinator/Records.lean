import StrategyCoordinator.Proofs.Coordinator.Wiring
import StrategyCoordinator.Solvers.Elementary

/-!
# What the log says about the backends

Log records and events are entered at separate places. They are compared here by the work that
they stand for: that an approximation or a backend is built, or that a backend is discarded.
In the entries of a call each piece of work is announced by the record right before it, and
nothing else is announced.

Around the announcements, a call enters its start, unless it is refused, and then its end if it
succeeds.
-/

namespace StrategyCoordinator

/-- A kind of backend, as the records of discarding name it. -/
inductive BackendPart
  | interiorPoint
  | trustRegion
  | asymptotes
deriving DecidableEq

/-- Work that is announced in the log. -/
inductive Work
  | build (role : Role)
  | discard (part : BackendPart)
deriving DecidableEq

/-- The kind of backend that has a role, if it is the role of a backend. -/
def Role.part? : Role → Option BackendPart
  | .curvature => none
  | .interiorPoint _ => some .interiorPoint
  | .trustRegion => some .trustRegion
  | .asymptotes => some .asymptotes

/-- The work that an event shows. An approximation goes with the last handle of its model, and
that is not announced. -/
def Event.work? : Event → Option Work
  | .built role _ => some (.build role)
  | .dropped role _ => role.part?.map .discard
  | .ran _ _ | .checkpoint _ => none

namespace LogRecord

/-- The work that a record announces. -/
def work? : LogRecord → Option Work
  | .buildingSubproblem _ _ => some (.build .curvature)
  | .buildingInteriorPoint target => some (.build (.interiorPoint target))
  | .buildingTrustRegion => some (.build .trustRegion)
  | .buildingAsymptotes => some (.build .asymptotes)
  | .discardingInteriorPoint => some (.discard .interiorPoint)
  | .discardingTrustRegion => some (.discard .trustRegion)
  | .discardingAsymptotes => some (.discard .asymptotes)
  | _ => none

/-- A record of bringing the live backends in line with a request. -/
def OfTransition : LogRecord → Prop
  | .buildingInteriorPoint _ | .buildingTrustRegion | .buildingAsymptotes
  | .discardingInteriorPoint | .discardingTrustRegion | .discardingAsymptotes
  | .boundSubproblemReplaced => True
  | _ => False

end LogRecord

/-- The work that an entry announces or shows. -/
def JournalEntry.work? : JournalEntry → Option Work
  | .event e => e.work?
  | .log r => r.work?

namespace Journal

/-- The work that is announced in a journal, in order. -/
def announced (journal : Journal) : List Work :=
  journal.records.filterMap LogRecord.work?

/-- The work that was done according to the events of a journal, in order. -/
def done (journal : Journal) : List Work :=
  journal.events.filterMap Event.work?

/-- Each piece of work is announced right before it is done, and whatever is announced is done
right after that. -/
inductive InStep : Journal → Prop
  | nil : InStep []
  | work {record : LogRecord} {event : Event} {work : Work} {rest : Journal}
      (hrecord : record.work? = some work) (hevent : event.work? = some work)
      (h : InStep rest) : InStep (.log record :: .event event :: rest)
  | skip {entry : JournalEntry} {rest : Journal} (hentry : entry.work? = none)
      (h : InStep rest) : InStep (entry :: rest)

namespace InStep

/-- Entries that keep in step can follow each other. -/
theorem append {first second : Journal} (h : InStep first) (h' : InStep second) :
    InStep (first ++ second) := by
  induction h with
  | nil => exact h'
  | work hrecord hevent _ ih => exact .work hrecord hevent ih
  | skip hentry _ ih => exact .skip hentry ih

/-- Entries without any work keep in step. -/
theorem of_forall {journal : Journal} (h : ∀ entry ∈ journal, entry.work? = none) :
    InStep journal := by
  induction journal with
  | nil => exact .nil
  | cons entry rest ih =>
    obtain ⟨hentry, hrest⟩ := List.forall_mem_cons.mp h
    exact .skip hentry (ih hrest)

/-- What is announced is what is done, in order and number. -/
theorem announced_eq_done {journal : Journal} (h : InStep journal) :
    journal.announced = journal.done := by
  induction h with
  | nil => rfl
  | @work record event work rest hrecord hevent _ ih =>
    have hannounced : announced (.log record :: .event event :: rest) = work :: announced rest :=
      List.filterMap_cons_some hrecord
    have hdone : done (.log record :: .event event :: rest) = work :: done rest :=
      List.filterMap_cons_some hevent
    rw [hannounced, hdone, ih]
  | @skip entry rest hentry _ ih =>
    cases entry with
    | event event =>
      have hdone : done (.event event :: rest) = done rest := List.filterMap_cons_none hentry
      exact ih.trans hdone.symm
    | log record =>
      have hannounced : announced (.log record :: rest) = announced rest :=
        List.filterMap_cons_none hentry
      exact hannounced.trans ih

end InStep

/-- Backends are discarded in step with the records of it. -/
theorem inStep_ofDiscards (backends : List (Role × Nat)) : InStep (ofDiscards backends) := by
  induction backends with
  | nil => exact .nil
  | cons backend rest ih =>
    obtain ⟨role, serial⟩ := backend
    cases role with
    | curvature => exact .skip rfl ih
    | interiorPoint | trustRegion | asymptotes => exact .work rfl rfl ih

/-- So are backends built. -/
theorem inStep_ofBuilds {backends : List (Role × Nat)}
    (h : ∀ backend ∈ backends, backend.1 ≠ .curvature) : InStep (ofBuilds backends) := by
  induction backends with
  | nil => exact .nil
  | cons backend rest ih =>
    obtain ⟨hbackend, hrest⟩ := List.forall_mem_cons.mp h
    obtain ⟨role, serial⟩ := backend
    cases role with
    | curvature => exact absurd rfl hbackend
    | interiorPoint | trustRegion | asymptotes => exact .work rfl rfl (ih hrest)

/-- A run neither announces nor does any of this work. -/
theorem IsRunOf.inStep {roster : List (Role × Nat)} {runs : Journal} (h : runs.IsRunOf roster) :
    InStep runs := by
  apply InStep.of_forall
  intro entry hentry
  rcases h.reportsRun entry hentry with ⟨path, rfl⟩ | ⟨backend, -, rfl⟩
  · rfl
  · rfl

/-- Nothing is logged in the course of a run. -/
theorem IsRunOf.records_eq_nil {roster : List (Role × Nat)} {runs : Journal}
    (h : runs.IsRunOf roster) : runs.records = [] := by
  apply List.filterMap_eq_nil_iff.mpr
  intro entry hentry
  rcases h.reportsRun entry hentry with ⟨path, rfl⟩ | ⟨backend, -, rfl⟩
  · rfl
  · rfl

/-- The records of entering each of some backends under an announcement. -/
theorem records_flatMap (backends : List (Role × Nat)) (announcement? : Role → Option LogRecord)
    (event : Role × Nat → Event) :
    Journal.records (backends.flatMap fun backend =>
      ((announcement? backend.1).map .log).toList ++ [.event (event backend)]) =
      backends.filterMap fun backend => announcement? backend.1 := by
  induction backends with
  | nil => rfl
  | cons backend rest ih =>
    rw [List.flatMap_cons, records_append, records_append, ih, List.filterMap_cons]
    cases announcement? backend.1 with
    | none => rfl
    | some record => rfl

/-- Discarding logs nothing else. -/
theorem ofTransition_of_mem_ofDiscards {backends : List (Role × Nat)} {record : LogRecord}
    (h : record ∈ (ofDiscards backends).records) :
    record.OfTransition ∧ record ≠ .boundSubproblemReplaced := by
  rw [ofDiscards, records_flatMap] at h
  obtain ⟨⟨role, serial⟩, -, hrecord⟩ := List.mem_filterMap.mp h
  cases role with
  | curvature => cases hrecord
  | interiorPoint | trustRegion | asymptotes =>
    cases hrecord
    exact ⟨trivial, LogRecord.noConfusion⟩

/-- Building logs nothing else. -/
theorem ofTransition_of_mem_ofBuilds {backends : List (Role × Nat)} {record : LogRecord}
    (h : record ∈ (ofBuilds backends).records) :
    record.OfTransition ∧ record ≠ .boundSubproblemReplaced := by
  rw [ofBuilds, records_flatMap] at h
  obtain ⟨⟨role, serial⟩, -, hrecord⟩ := List.mem_filterMap.mp h
  cases role with
  | curvature => cases hrecord
  | interiorPoint | trustRegion | asymptotes =>
    cases hrecord
    exact ⟨trivial, LogRecord.noConfusion⟩

end Journal

variable {R : Type} {kit : SolverKit R}

namespace Session

/-- The entries of letting go of a model are events, and show no work that is announced. -/
theorem inStep_partings (s : Session kit) (handle : Option Nat) :
    (s.partings handle).InStep ∧ (s.partings handle).records = [] := by
  cases handle with
  | none => exact ⟨.nil, rfl⟩
  | some serial =>
    rw [partings]
    split
    · exact ⟨.nil, rfl⟩
    · exact ⟨.skip rfl .nil, rfl⟩

/-- The notice that live trust-region backends are replaced announces no work by itself. -/
theorem inStep_replacementNotice (s : Session kit) (request : Request) :
    (s.replacementNotice request).InStep := by
  cases request with
  | interiorPoint checkpoint => exact .nil
  | trustRegion handle =>
    rw [replacementNotice]
    split
    · exact .skip rfl .nil
    · exact .nil
  | asymptotes => exact .nil

/-- The only record in it is that the bound model was replaced, and it is there if trust-region
backends are live and stay requested. -/
theorem mem_replacementNotice {s : Session kit} {request : Request} {record : LogRecord} :
    record ∈ (s.replacementNotice request).records ↔ record = .boundSubproblemReplaced ∧
      s.state = .trustRegionActive ∧ ∃ handle, request = .trustRegion handle := by
  cases request with
  | trustRegion handle =>
    rw [replacementNotice]
    split
    next hstate => simp [Journal.records, JournalEntry.record?, hstate]
    next hstate => simp [Journal.records, hstate]
  | interiorPoint | asymptotes => simp [replacementNotice, Journal.records]

/-- The entries of a transition keep in step. -/
theorem inStep_transitionEntries (s : Session kit) (request : Request) :
    (s.transitionEntries request).InStep := by
  rw [transitionEntries]
  split
  · exact .nil
  · have hdiscards := (s.inStep_replacementNotice request).append
      (Journal.inStep_ofDiscards s.backends.roster)
    have hparted := hdiscards.append (s.withoutBackends.inStep_partings s.backends.bound?).1
    exact hparted.append (Journal.inStep_ofBuilds (request.ne_curvature_of_mem_builds _))

/-- A record of a transition is the notice that the bound model was replaced, or announces work
of the transition. -/
theorem mem_transitionEntries {s : Session kit} {request : Request} {record : LogRecord}
    (h : record ∈ (s.transitionEntries request).records) :
    (s.backends.serves request = false ∧ record ∈ (s.replacementNotice request).records) ∨
      record.OfTransition ∧ record ≠ .boundSubproblemReplaced := by
  rw [transitionEntries] at h
  split at h
  next => exact absurd h List.not_mem_nil
  next hserves =>
    rw [Journal.records_append, Journal.records_append, Journal.records_append,
      (s.withoutBackends.inStep_partings s.backends.bound?).2, List.append_nil] at h
    rcases List.mem_append.mp h with h | h
    · rcases List.mem_append.mp h with h | h
      · exact Or.inl ⟨Bool.eq_false_iff.mpr hserves, h⟩
      · exact Or.inr (Journal.ofTransition_of_mem_ofDiscards h)
    · exact Or.inr (Journal.ofTransition_of_mem_ofBuilds h)

/-- A transition logs nothing but the notice and what it announces. -/
theorem ofTransition_of_mem {s : Session kit} {request : Request} {record : LogRecord}
    (h : record ∈ (s.transitionEntries request).records) : record.OfTransition := by
  rcases mem_transitionEntries h with ⟨-, hnotice⟩ | ⟨hrecord, -⟩
  · obtain ⟨rfl, -⟩ := mem_replacementNotice.mp hnotice
    exact trivial
  · exact hrecord

/-- A transition logs that the bound model was replaced exactly if trust-region backends are live
and stay requested with another model. -/
theorem boundSubproblemReplaced_mem_iff {s : Session kit} {request : Request} :
    .boundSubproblemReplaced ∈ (s.transitionEntries request).records ↔
      s.state = .trustRegionActive ∧
        ∃ handle, request = .trustRegion handle ∧ s.backends.bound? ≠ some handle := by
  constructor
  · intro h
    rcases mem_transitionEntries h with ⟨hserves, hnotice⟩ | ⟨-, hne⟩
    · obtain ⟨-, hstate, handle, rfl⟩ := mem_replacementNotice.mp hnotice
      exact ⟨hstate, handle, rfl, fun hbound => beq_eq_false_iff_ne.mp hserves hbound⟩
    · exact absurd rfl hne
  · rintro ⟨hstate, handle, rfl, hbound⟩
    have hserves : s.backends.serves (.trustRegion handle) = false := beq_eq_false_iff_ne.mpr hbound
    have hnotice := mem_replacementNotice.mpr ⟨rfl, hstate, handle, rfl⟩
    rw [transitionEntries, hserves, if_neg Bool.false_ne_true, Journal.records_append,
      Journal.records_append, Journal.records_append]
    exact List.mem_append_left _ (List.mem_append_left _ (List.mem_append_left _ hnotice))

/-- A call is entered as finished if it succeeded, with the state that it leaves. -/
theorem finished_mem_closing {s : Session kit} {answer : Except OptimizerError Unit}
    {record : LogRecord} (h : record ∈ (s.closing answer).records) :
    answer = .ok () ∧ record = .finished s.state := by
  cases answer with
  | error e => exact absurd h List.not_mem_nil
  | ok => exact ⟨rfl, List.mem_singleton.mp h⟩

/-- After its start, a call logs the transition and at most its end. -/
theorem ofTransition_or_finished {s resolved : Session kit} {request : Request}
    {answer : Except OptimizerError Unit} {record : LogRecord}
    (h : record ∈ (resolved.transitionEntries request).records ++ (s.closing answer).records) :
    record.OfTransition ∨ record = .finished s.state := by
  rcases List.mem_append.mp h with h | h
  · exact Or.inl (ofTransition_of_mem h)
  · exact Or.inr (finished_mem_closing h).2

/-- Before its end, a call logs at most the building of a model, its start and the transition. -/
theorem mem_before_closing {s resolved : Session kit} {request : Request}
    {notice : List LogRecord} {record : LogRecord}
    (hnotice : notice = [] ∨ ∃ kind size, s.options.readQuasiNewton = .ok (kind, size) ∧
      notice = [.buildingSubproblem kind size])
    (h : record ∈ notice ++ .started request.algorithm s.state ::
      (resolved.transitionEntries request).records) :
    (∃ kind size, record = .buildingSubproblem kind size) ∨
      record = .started request.algorithm s.state ∨
        record ∈ (resolved.transitionEntries request).records := by
  rcases List.mem_append.mp h with h | h
  · rcases hnotice with rfl | ⟨kind, size, -, rfl⟩
    · exact absurd h List.not_mem_nil
    · exact Or.inl ⟨kind, size, List.mem_singleton.mp h⟩
  · exact Or.inr (List.mem_cons.mp h)

/-- The close of a call announces no work. -/
theorem inStep_closing (s : Session kit) (answer : Except OptimizerError Unit) :
    (s.closing answer).InStep := by
  cases answer with
  | error e => exact .nil
  | ok => exact .skip rfl .nil

/-- The entries of resolving a configuration: the building of a missing model, announced with the
kind and size that the options describe. -/
def ResolvedBy (s : Session kit) (built : Journal) : Prop :=
  built = [] ∨ ∃ kind size, s.options.readQuasiNewton = .ok (kind, size) ∧
    built = [.log (.buildingSubproblem kind size),
      .event (.built .curvature s.workshop.nextSerial)]

/-- The building of a missing model is announced. -/
theorem ResolvedBy.inStep {s : Session kit} {built : Journal} (h : s.ResolvedBy built) :
    built.InStep := by
  rcases h with rfl | ⟨kind, size, -, rfl⟩
  · exact .nil
  · exact .work rfl rfl .nil

/-- Nothing else is logged of resolving. -/
theorem ResolvedBy.records {s : Session kit} {built : Journal} (h : s.ResolvedBy built) :
    built.records = [] ∨ ∃ kind size, s.options.readQuasiNewton = .ok (kind, size) ∧
      built.records = [.buildingSubproblem kind size] := by
  rcases h with rfl | ⟨kind, size, hread, rfl⟩
  · exact Or.inl rfl
  · exact Or.inr ⟨kind, size, hread, rfl⟩

/-- What the entries of a call say that was resolved to a request: where it starts, what work is
done for it, whether live trust-region backends are bound to another model than it names, and
where it ends. -/
structure ToldAs (s : Session kit) (request : Request) (s' : Session kit)
    (answer : Except OptimizerError Unit) (entries : Journal) : Prop where
  started : ∃ notice rest, entries.records = notice ++ .started request.algorithm s.state :: rest ∧
    (notice = [] ∨ ∃ kind size, s.options.readQuasiNewton = .ok (kind, size) ∧
      notice = [.buildingSubproblem kind size]) ∧
    (∀ algorithm state, .started algorithm state ∉ rest) ∧
    (∀ kind size, .buildingSubproblem kind size ∉ rest) ∧ ∀ e, .refused e ∉ rest
  inStep : entries.InStep
  announced : entries.announced = entries.done
  replaced : .boundSubproblemReplaced ∈ entries.records ↔ s.state = .trustRegionActive ∧
    ∃ handle, request = .trustRegion handle ∧ s.backends.bound? ≠ some handle
  finished : answer = .ok () → s'.state.algorithm? = some request.algorithm ∧
    ∃ earlier : Journal, entries = earlier ++ [.log (.finished s'.state)] ∧
      ∀ state, .finished state ∉ earlier.records
  failed : answer ≠ .ok () → ∀ state, .finished state ∉ entries.records

variable [Scalar R]

/-- Resolving enters nothing else. -/
theorem journal_resolve {s resolved : Session kit} {request : Request}
    (h : s.resolve = .ok (request, resolved)) :
    ∃ built, s.ResolvedBy built ∧ resolved.workshop.journal = s.workshop.journal ++ built := by
  obtain ⟨-, ⟨rfl, -⟩ | ⟨-, -, kind, size, hread, rfl⟩⟩ := resolve_cases h
  · exact ⟨[], Or.inl rfl, (List.append_nil _).symm⟩
  · exact ⟨_, Or.inr ⟨kind, size, hread, rfl⟩, List.append_assoc _ [_] [_]⟩

end Session

variable [Scalar R]

/-- The entries of a call that passes the checks of the configuration: those of resolving it, its
start, the transition, the run, and its end. -/
theorem Step.entries_of_resolved {s resolved : Session kit} {request : Request}
    (h : s.resolve = .ok (request, resolved)) (condition : kit.Condition) :
    ∃ built runs : Journal, s.ResolvedBy built ∧
      runs.IsRunOf (s.optimize condition).1.backends.roster ∧
      (Step.mk s (.optimize condition)).seen.entries =
        built ++ .log (.started request.algorithm s.state) ::
          (resolved.transitionEntries request ++ runs) ++
            (s.optimize condition).1.closing (s.optimize condition).2 := by
  obtain ⟨built, hbuilt, hresolved⟩ := Session.journal_resolve h
  obtain ⟨runs, hruns, hjournal⟩ := (Session.optimize_of_ok h condition).journal
  have hstate : resolved.state = s.state :=
    congrArg Backends.state (Session.resolve_aside h).backends
  have hafter := (Step.mk s (.optimize condition)).journal_after
  refine ⟨built, runs, hbuilt, hruns, List.append_cancel_left (hafter.symm.trans ?_)⟩
  rw [List.append_assoc, ← List.append_assoc, ← hresolved, ← hstate]
  exact hjournal

/-- The same entries by what they say: before its end, such a call logs the building of a missing
model, its start and the transition, and all work is announced. -/
theorem Step.records_of_resolved {s resolved : Session kit} {request : Request}
    (h : s.resolve = .ok (request, resolved)) (condition : kit.Condition) :
    ∃ (earlier : Journal) (notice : List LogRecord), earlier.InStep ∧
      (Step.mk s (.optimize condition)).seen.entries =
        earlier ++ (s.optimize condition).1.closing (s.optimize condition).2 ∧
      earlier.records = notice ++ .started request.algorithm s.state ::
        (resolved.transitionEntries request).records ∧
      (notice = [] ∨ ∃ kind size, s.options.readQuasiNewton = .ok (kind, size) ∧
        notice = [.buildingSubproblem kind size]) := by
  obtain ⟨built, runs, hbuilt, hruns, hentries⟩ := entries_of_resolved h condition
  have hstarted : Journal.InStep (.log (.started request.algorithm s.state) ::
      (resolved.transitionEntries request ++ runs)) :=
    .skip rfl ((resolved.inStep_transitionEntries request).append hruns.inStep)
  refine ⟨_, built.records, hbuilt.inStep.append hstarted, hentries, ?_, hbuilt.records⟩
  rw [Journal.records_append]
  show built.records ++ .started request.algorithm s.state ::
    Journal.records (resolved.transitionEntries request ++ runs) = _
  rw [Journal.records_append, hruns.records_eq_nil, List.append_nil]

namespace Session

/-- A call that passes the checks of the configuration is logged as it is carried out. -/
theorem toldAs_of_resolved {s resolved : Session kit} {request : Request}
    (h : s.resolve = .ok (request, resolved)) (condition : kit.Condition) :
    s.ToldAs request (s.optimize condition).1 (s.optimize condition).2
      (Step.mk s (.optimize condition)).seen.entries := by
  obtain ⟨earlier, notice, hinStep, hentries, hearlier, hnotice⟩ :=
    Step.records_of_resolved h condition
  have hbackends : resolved.backends = s.backends := (resolve_aside h).backends
  have halgorithm : (s.optimize condition).1.state.algorithm? = some request.algorithm := by
    rw [state, Backends.state_eq, (optimize_of_ok h condition).assembly]
    exact resolved.alignedAssembly_algorithm? request
  generalize (s.optimize condition).1 = s' at *
  generalize (s.optimize condition).2 = answer at *
  generalize (Step.mk s (.optimize condition)).seen.entries = entries at *
  have hrecords : entries.records = notice ++ .started request.algorithm s.state ::
      ((resolved.transitionEntries request).records ++ (s'.closing answer).records) := by
    rw [hentries, Journal.records_append, hearlier, List.append_assoc]
    rfl
  have hbefore {record : LogRecord} (hrecord : record ∈ earlier.records) :=
    mem_before_closing hnotice (hearlier ▸ hrecord)
  have hunfinished : ∀ state, .finished state ∉ earlier.records := by
    intro state hmem
    rcases hbefore hmem with ⟨kind, size, heq⟩ | heq | hmem
    · cases heq
    · cases heq
    · exact ofTransition_of_mem hmem
  have hreplaced : .boundSubproblemReplaced ∈ (resolved.transitionEntries request).records ↔
      s.state = .trustRegionActive ∧
        ∃ handle, request = .trustRegion handle ∧ s.backends.bound? ≠ some handle := by
    rw [boundSubproblemReplaced_mem_iff, state, hbackends]
    rfl
  have hkept : entries.InStep := by
    rw [hentries]
    exact hinStep.append (s'.inStep_closing answer)
  refine
    { started := ⟨notice, _, hrecords, hnotice, ?_, ?_, ?_⟩
      inStep := hkept
      announced := hkept.announced_eq_done
      replaced := ?_
      finished := ?_
      failed := ?_ }
  · intro algorithm state hmem
    exact (ofTransition_or_finished hmem).elim id LogRecord.noConfusion
  · intro kind size hmem
    exact (ofTransition_or_finished hmem).elim id LogRecord.noConfusion
  · intro e hmem
    exact (ofTransition_or_finished hmem).elim id LogRecord.noConfusion
  · rw [← hreplaced, hentries, Journal.records_append]
    constructor
    · intro hmem
      rcases List.mem_append.mp hmem with hmem | hmem
      · rcases hbefore hmem with ⟨kind, size, heq⟩ | heq | hmem
        · cases heq
        · cases heq
        · exact hmem
      · cases (finished_mem_closing hmem).2
    · intro hmem
      rw [hearlier]
      exact List.mem_append_left _ (List.mem_append_right _ (List.mem_cons_of_mem _ hmem))
  · rintro rfl
    exact ⟨halgorithm, earlier, hentries, hunfinished⟩
  · intro hanswer state hmem
    rw [hentries, Journal.records_append] at hmem
    rcases List.mem_append.mp hmem with hmem | hmem
    · exact hunfinished state hmem
    · exact hanswer (finished_mem_closing hmem).1

/-- A call is refused with an error of the configuration, or it was resolved to a request; what it
enters in the journal says which. A refused call enters its error and nothing else. Any other call
enters one start, with the strategy that the options select and the state before the transition,
and before it at most that a model is being built; all building and discarding is announced piece
by piece; that the bound model was replaced is entered exactly if trust-region backends are live
and stay requested with another model; and the end is entered exactly if the call succeeds, last of
all. -/
theorem log_tells_truth (s : Session kit) (condition : kit.Condition) :
    let step : Step kit := ⟨s, .optimize condition⟩
    let answer := (s.optimize condition).2
    step.after.workshop.journal = s.workshop.journal ++ step.seen.entries ∧
      (isRefusal answer = true → ∃ e, answer = .error e ∧
        step.seen.entries = [.log (.refused e)] ∧ (LogRecord.refused e).level = .error ∧
        (LogRecord.refused e).message = e.message) ∧
      (isRefusal answer = false → ∃ request resolved, s.resolve = .ok (request, resolved) ∧
        s.options.readAlgorithm = .ok request.algorithm ∧
        (∀ handle, request = .trustRegion handle → step.after.subproblem = some handle) ∧
        s.ToldAs request step.after answer step.seen.entries) := by
  intro step answer
  have hjournal := step.journal_after
  refine ⟨hjournal, ?_, ?_⟩
  · intro hrefused
    obtain ⟨e, hresolve⟩ := (s.isRefusal_optimize_iff condition).mp hrefused
    have hafter : step.after = s.log (.refused e) := Step.after_of_error hresolve condition
    rw [hafter] at hjournal
    exact ⟨e, congrArg Prod.snd (optimize_of_error hresolve condition),
      (List.append_cancel_left hjournal).symm, rfl, rfl⟩
  · intro hcarried
    obtain ⟨request, resolved, hresolve⟩ := exists_resolve_of_not_refused hcarried
    have hown := subproblem_of_resolve hresolve
    rw [← (optimize_of_ok hresolve condition).subproblem] at hown
    exact ⟨request, resolved, hresolve, (resolve_cases hresolve).1, hown,
      toldAs_of_resolved hresolve condition⟩

/-- With the standard solvers, a call without options enters its error, the first call with the
default options is logged in step, and the call after a model was put in place logs that the bound
model was replaced. -/
theorem standard_log :
    let kit := ElementarySolvers.standard.kit
    let problem : Problem Binary64 := Problem.ofBounds [] 0
    let bare := new kit problem .empty
    let start := new kit problem (OptionStore.empty.addDefaults kit.registerOptions).1
    let injected := start.performAll [.optimize none, .inject .bfgs 1 none]
    (∃ e, (Step.mk bare (.optimize none)).seen.entries = [.log (.refused e)]) ∧
      (Step.mk start (.optimize none)).seen.entries.InStep ∧
      .boundSubproblemReplaced ∈ (Step.mk injected (.optimize none)).seen.entries.records := by
  intro kit problem bare start injected
  have hbare : isRefusal (bare.optimize none).2 = true := by decide
  have hstart : isRefusal (start.optimize none).2 = false := by decide
  have hinjected : isRefusal (injected.optimize none).2 = false := by decide
  obtain ⟨-, hrefused, -⟩ := log_tells_truth bare none
  obtain ⟨-, -, hcarried⟩ := log_tells_truth start none
  obtain ⟨-, -, hreplaced⟩ := log_tells_truth injected none
  refine ⟨?_, ?_, ?_⟩
  · obtain ⟨e, -, hentries, -⟩ := hrefused hbare
    exact ⟨e, hentries⟩
  · obtain ⟨_, _, -, -, -, htold⟩ := hcarried hstart
    exact htold.inStep
  · obtain ⟨request, resolved, hresolve, -, -, htold⟩ := hreplaced hinjected
    have hrequest : injected.resolve.map Prod.fst = .ok (.trustRegion 3) := by rfl
    have hactive : injected.state = .trustRegionActive := by decide
    rw [hresolve] at hrequest
    exact htold.replaced.mpr ⟨hactive, 3, Except.ok.inj hrequest, by decide⟩

end Session

end StrategyCoordinator
