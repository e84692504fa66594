import StrategyCoordinator.Proofs.Coordinator.Resolution
import StrategyCoordinator.Proofs.Coordinator.Roll

/-!
# What the other operations leave as it was

Operations that do not run a strategy leave the live backends alone. They may build a model
and let go of models, and that is all that they enter as events.
-/

namespace StrategyCoordinator

/-- Events that build and drop models only, with the serial numbers before and after them. -/
inductive ModelEvents : Nat → List Event → Nat → Prop
  | nil (next : Nat) : ModelEvents next [] next
  | build {next final : Nat} {rest : List Event} (h : ModelEvents (next + 1) rest final) :
      ModelEvents next (.built .curvature next :: rest) final
  | drop {next final : Nat} {rest : List Event} (serial : Nat) (h : ModelEvents next rest final) :
      ModelEvents next (.dropped .curvature serial :: rest) final

namespace ModelEvents

/-- Such events can follow each other. -/
theorem append {next middle final : Nat} {first second : List Event}
    (h : ModelEvents next first middle) (h' : ModelEvents middle second final) :
    ModelEvents next (first ++ second) final := by
  induction h with
  | nil => exact h'
  | build _ ih => exact .build (ih h')
  | drop serial _ ih => exact .drop serial (ih h')

/-- Serial numbers only go up along them. -/
theorem le {next final : Nat} {events : List Event} (h : ModelEvents next events final) :
    next ≤ final := by
  induction h with
  | nil => exact Nat.le_refl _
  | build _ ih => omega
  | drop _ _ ih => exact ih

/-- They are allowed at any time and leave the live backends. -/
theorem follows {next final : Nat} {events : List Event} (h : ModelEvents next events final)
    (live : List (Role × Nat)) : Roll.Follows ⟨next, live⟩ events ⟨final, live⟩ := by
  induction h with
  | nil => exact .nil _
  | build _ ih => exact .cons (.buildModel live (Nat.le_refl _)) ih
  | drop serial _ ih => exact .cons (.dropModel _ serial) ih

/-- None of them is an event of a backend. -/
theorem of_mem {next final : Nat} {events : List Event} (h : ModelEvents next events final) :
    ∀ event ∈ events, ∃ serial,
      event = .built .curvature serial ∨ event = .dropped .curvature serial := by
  induction h with
  | nil => nofun
  | @build next _ _ _ ih => exact List.forall_mem_cons.mpr ⟨⟨next, Or.inl rfl⟩, ih⟩
  | drop serial _ ih => exact List.forall_mem_cons.mpr ⟨⟨serial, Or.inr rfl⟩, ih⟩

end ModelEvents

variable {R : Type} {kit : SolverKit R}

namespace Session

/-- What an operation leaves that runs nothing. -/
structure Aside (s s' : Session kit) : Prop where
  backends : s'.backends = s.backends
  problem : s'.workshop.problem = s.workshop.problem
  surrogates : s'.workshop.surrogates = s.workshop.surrogates
  journal : ∃ entries : Journal, s'.workshop.journal = s.workshop.journal ++ entries ∧
    ModelEvents s.workshop.nextSerial entries.events s'.workshop.nextSerial

namespace Aside

variable {s s' s'' : Session kit}

/-- What nothing is done to is left. -/
theorem refl (s : Session kit) : s.Aside s :=
  ⟨rfl, rfl, rfl, [], (List.append_nil _).symm, .nil _⟩

/-- What two operations leave one after another. -/
theorem trans (h : s.Aside s') (h' : s'.Aside s'') : s.Aside s'' := by
  obtain ⟨entries, hentries, hevents⟩ := h.journal
  obtain ⟨entries', hentries', hevents'⟩ := h'.journal
  refine ⟨h'.backends.trans h.backends, h'.problem.trans h.problem,
    h'.surrogates.trans h.surrogates, entries ++ entries', ?_, ?_⟩
  · rw [hentries', hentries, List.append_assoc]
  · rw [Journal.events_append]
    exact hevents.append hevents'

end Aside

/-- Logging leaves everything but the journal. -/
theorem log_aside (s : Session kit) (record : LogRecord) : s.Aside (s.log record) :=
  ⟨rfl, rfl, rfl, [.log record], rfl, .nil _⟩

/-- Letting go of a model drops at most its approximation. -/
theorem letGo_aside (s : Session kit) (handle : Option Nat) : s.Aside (s.letGo handle) := by
  rw [letGo_eq]
  refine ⟨rfl, rfl, rfl, s.partings handle, rfl, ?_⟩
  rcases s.events_partings handle with h | ⟨serial, -, h⟩
  · rw [h]
    exact .nil _
  · rw [h]
    exact .drop serial (.nil _)

/-- Replacing the own handle lets go of the one before. -/
theorem replaceHandle_aside (s : Session kit) (handle : Option Nat) :
    s.Aside (s.replaceHandle handle) :=
  have hset : s.Aside { s with subproblem := handle } :=
    ⟨rfl, rfl, rfl, [], (List.append_nil _).symm, .nil _⟩
  hset.trans (letGo_aside _ _)

/-- Putting a model in place lets go of the one before. -/
theorem setSubproblem_aside (s : Session kit) (handle : Nat) :
    s.Aside (s.setSubproblem handle) := by
  have hwarned : s.Aside (if s.isForeign handle then s.log .foreignSubproblem else s) := by
    split
    · exact s.log_aside .foreignSubproblem
    · exact .refl s
  exact (hwarned.trans (log_aside _ _)).trans (replaceHandle_aside _ _)

/-- Giving up the model lets go of it. -/
theorem clearSubproblem_aside (s : Session kit) : s.Aside s.clearSubproblem :=
  (log_aside _ _).trans (replaceHandle_aside _ _)

/-- Changing the kept handles changes nothing else. -/
theorem withHeld_aside (s : Session kit) (held : NameMap Nat) : s.Aside { s with held } :=
  ⟨rfl, rfl, rfl, [], (List.append_nil _).symm, .nil _⟩

/-- Keeping a handle lets go of the one of that name before. -/
theorem hold_aside (s : Session kit) (name : String) : s.Aside (s.hold name).2 := by
  unfold hold
  split
  · exact .refl s
  · exact (s.withHeld_aside _).trans (letGo_aside _ _)

/-- Letting go of a kept handle touches no backend. -/
theorem release_aside (s : Session kit) (name : String) : s.Aside (s.release name).2 := by
  unfold release
  split
  next => exact .refl s
  next handle _ => exact (s.withHeld_aside (s.held.erase name)).trans (letGo_aside _ handle)

/-- Putting the model of a kept handle in place lets go of the one before. -/
theorem setHeldSubproblem_aside (s : Session kit) (name : String) :
    s.Aside (s.setHeldSubproblem name) := by
  unfold setHeldSubproblem
  split
  · exact .refl s
  · exact setSubproblem_aside _ _

/-- Changing a model leaves everything but the models. -/
theorem changeThrough_aside (s : Session kit) (handle : Option Nat) (change : ModelChange R) :
    s.Aside (s.changeThrough handle change).2 := by
  unfold changeThrough
  split
  · exact .refl s
  · split
    · exact .refl s
    · exact ⟨rfl, rfl, rfl, [], (List.append_nil _).symm, .nil _⟩

variable [Scalar R]

/-- Building a model enters its approximation and nothing else. -/
theorem buildModel_aside (s : Session kit) (source : ProblemObject R) (kind : QuasiNewtonKind)
    (size : Nat) : s.Aside { s with workshop := (s.workshop.buildModel source kind size).2 } :=
  ⟨rfl, rfl, rfl, [.event (.built .curvature s.workshop.nextSerial)], rfl, .build (.nil _)⟩

/-- Building a model and putting it in place touches no backend. -/
theorem injectSubproblem_aside (s : Session kit) (kind : QuasiNewtonKind) (size : Nat)
    (problem : Option (Problem R)) : s.Aside (s.injectSubproblem kind size problem) :=
  (s.buildModel_aside _ kind size).trans (setSubproblem_aside _ _)

/-- Building the coordinator's model touches no backend. -/
theorem withBuiltSubproblem_aside (s : Session kit) (kind : QuasiNewtonKind) (size : Nat) :
    s.Aside (s.withBuiltSubproblem kind size) :=
  ⟨rfl, rfl, rfl, [.log (.buildingSubproblem kind size),
    .event (.built .curvature s.workshop.nextSerial)], by
      simp [withBuiltSubproblem, Workshop.buildSubproblem, Workshop.buildModel, Workshop.log,
        Workshop.count, Workshop.happen], .build (.nil _)⟩

/-- Resolving the configuration touches no backend. -/
theorem resolve_aside {s resolved : Session kit} {request : Request}
    (h : s.resolve = .ok (request, resolved)) : s.Aside resolved := by
  obtain ⟨-, ⟨rfl, -⟩ | ⟨-, -, kind, size, -, rfl⟩⟩ := resolve_cases h
  · exact .refl _
  · exact s.withBuiltSubproblem_aside kind size

/-- An operation that runs no strategy leaves the live backends alone. -/
theorem perform_aside (s : Session kit) {operation : Operation kit}
    (h : ∀ condition, operation ≠ .optimize condition) : s.Aside (s.perform operation).1 := by
  cases operation with
  | setOptions options => exact ⟨rfl, rfl, rfl, [], (List.append_nil _).symm, .nil _⟩
  | changeModel change => exact s.changeThrough_aside s.subproblem change
  | changeHeld name change => exact s.changeThrough_aside (s.held.find? name) change
  | inject kind size problem => exact s.injectSubproblem_aside kind size problem
  | injectHeld name => exact s.setHeldSubproblem_aside name
  | clear => exact s.clearSubproblem_aside
  | hold name => exact s.hold_aside name
  | release name => exact s.release_aside name
  | optimize condition => exact absurd rfl (h condition)

end Session

end StrategyCoordinator
