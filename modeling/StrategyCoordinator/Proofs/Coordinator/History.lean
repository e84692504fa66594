import StrategyCoordinator.Proofs.Coordinator.Resolution
import StrategyCoordinator.Proofs.Coordinator.WriteOnlyJournal

/-!
# Histories of a coordinator

A history is a list of operations. It is followed step by step: each operation with the state
in which it is performed. Of a step a caller sees the answer, the entries that it adds to the
journal, and the state that it leaves. Since no operation reads the journal, what is seen of a
step does not depend on the entries before it.
-/

namespace StrategyCoordinator

/-- Whether an operation was refused because of an error of the configuration. -/
def OperationAnswer.isRefusal : OperationAnswer → Bool
  | .optimized result => StrategyCoordinator.isRefusal result
  | _ => false

variable {R : Type} {kit : SolverKit R}

/-- An operation in the state in which it is performed. -/
structure Step (kit : SolverKit R) where
  before : Session kit
  operation : Operation kit

/-- What is seen of a step: the answer, the entries of the step, and the state afterwards apart
from the journal. -/
structure Observation (kit : SolverKit R) where
  answer : OperationAnswer
  entries : Journal
  after : Session kit

/-- Whether what is seen is the refusal of a call. -/
def Observation.isRefusal (seen : Observation kit) : Bool :=
  seen.answer.isRefusal

variable [Scalar R]

namespace Step

/-- The state that a step leaves. -/
def after (step : Step kit) : Session kit :=
  (step.before.perform step.operation).1

/-- What is seen of a step. -/
def seen (step : Step kit) : Observation kit :=
  let performed := step.before.takeJournal.2.perform step.operation
  ⟨performed.2, performed.1.workshop.journal, performed.1.takeJournal.2⟩

/-- The events of a step. -/
def events (step : Step kit) : List Event :=
  step.seen.entries.events

/-- What is seen of a step is what the operation answers and changes. -/
theorem perform_eq (step : Step kit) :
    step.before.perform step.operation =
      (step.seen.after.precededBy (step.before.workshop.journal ++ step.seen.entries),
        step.seen.answer) := by
  have hperform := step.before.takeJournal.2.perform_precededBy step.before.workshop.journal
    step.operation
  rw [step.before.takeJournal_precededBy] at hperform
  rw [hperform, seen]
  generalize step.before.takeJournal.2.perform step.operation = performed
  refine Prod.ext ?_ rfl
  simp [Session.takeJournal, Session.precededBy, Workshop.precededBy]

/-- A step appends its entries to the journal. -/
theorem journal_after (step : Step kit) :
    step.after.workshop.journal = step.before.workshop.journal ++ step.seen.entries := by
  have hafter : step.after.workshop.journal =
      step.before.workshop.journal ++ step.seen.entries ++ [] := by
    rw [after, perform_eq]
    rfl
  rw [hafter, List.append_nil]

/-- A step appends its events. -/
theorem events_after (step : Step kit) :
    step.after.events = step.before.events ++ step.events := by
  rw [Session.events, journal_after, Journal.events_append]
  rfl

end Step

namespace Session

/-- The steps of a history. -/
def steps (s : Session kit) : List (Operation kit) → List (Step kit)
  | [] => []
  | operation :: rest => ⟨s, operation⟩ :: (s.perform operation).1.steps rest

/-- What is seen of a history. -/
def observe (s : Session kit) (operations : List (Operation kit)) : List (Observation kit) :=
  (s.steps operations).map Step.seen

/-- One history after another. -/
theorem performAll_append (s : Session kit) (first second : List (Operation kit)) :
    s.performAll (first ++ second) = (s.performAll first).performAll second :=
  List.foldl_append

/-- A step of a history is performed after the operations before it. -/
theorem exists_of_mem_steps {s : Session kit} {operations : List (Operation kit)}
    {step : Step kit} (h : step ∈ s.steps operations) :
    ∃ done rest, operations = done ++ step.operation :: rest ∧
      step.before = s.performAll done := by
  induction operations generalizing s with
  | nil => exact absurd h List.not_mem_nil
  | cons operation rest ih =>
    rcases List.mem_cons.mp h with rfl | h
    · exact ⟨[], rest, rfl, rfl⟩
    · obtain ⟨done, later, hoperations, hbefore⟩ := ih h
      exact ⟨operation :: done, later, congrArg (operation :: ·) hoperations, hbefore⟩

/-- What every operation preserves holds after every history. -/
theorem performAll_invariant {P : Session kit → Prop}
    (hstep : ∀ s operation, P s → P (s.perform operation).1) {s : Session kit} (hs : P s)
    (operations : List (Operation kit)) : P (s.performAll operations) := by
  induction operations generalizing s with
  | nil => exact hs
  | cons operation rest ih => exact ih (hstep s operation hs)

/-- A history appends the entries of its steps to the journal. -/
theorem journal_performAll (s : Session kit) (operations : List (Operation kit)) :
    (s.performAll operations).workshop.journal =
      s.workshop.journal ++ (s.observe operations).flatMap Observation.entries := by
  induction operations generalizing s with
  | nil => exact (List.append_nil _).symm
  | cons operation rest ih =>
    have hstep := (Step.mk s operation).journal_after
    calc ((s.perform operation).1.performAll rest).workshop.journal
        = (s.perform operation).1.workshop.journal ++
            ((s.perform operation).1.observe rest).flatMap Observation.entries := ih _
      _ = s.workshop.journal ++ ((Step.mk s operation).seen.entries ++
            ((s.perform operation).1.observe rest).flatMap Observation.entries) := by
          rw [← List.append_assoc, ← hstep]
          rfl

/-- The events of a history are those of its steps. -/
theorem events_performAll (s : Session kit) (operations : List (Operation kit)) :
    (s.performAll operations).events =
      s.events ++ (s.observe operations).flatMap fun seen => seen.entries.events := by
  have hflat (seen : List (Observation kit)) :
      Journal.events (seen.flatMap Observation.entries) =
        seen.flatMap fun seen => seen.entries.events := by
    induction seen with
    | nil => rfl
    | cons first rest ih =>
      rw [List.flatMap_cons, Journal.events_append, ih, List.flatMap_cons]
  rw [events, journal_performAll, Journal.events_append, hflat]
  rfl

/-- What has happened after a step is where the events of a history start with. -/
theorem events_after_prefix (s : Session kit) (operations : List (Operation kit)) :
    ∀ step ∈ s.steps operations, step.after.events <+: (s.performAll operations).events := by
  intro step hstep
  obtain ⟨done, rest, rfl, hbefore⟩ := exists_of_mem_steps hstep
  rw [performAll_append, ← hbefore]
  exact ⟨_, (step.after.events_performAll rest).symm⟩

end Session

end StrategyCoordinator
