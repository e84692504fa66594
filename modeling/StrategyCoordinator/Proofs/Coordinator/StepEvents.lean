import StrategyCoordinator.Proofs.Coordinator.Aside
import StrategyCoordinator.Proofs.Coordinator.History

/-!
# The events of a step

An operation that runs no strategy enters at most that models were built and dropped, and a
refused call enters no event. A call that passes the checks of the configuration enters the
building of a missing model, the transition, and the run, in this order.
-/

namespace StrategyCoordinator

variable {R : Type} {kit : SolverKit R}

namespace Session

/-- Backends that serve the request are neither dropped nor built. -/
theorem events_transitionEntries_of_serves {s : Session kit} {request : Request}
    (h : s.backends.serves request = true) : (s.transitionEntries request).events = [] := by
  rw [transitionEntries, if_pos h]
  rfl

/-- Otherwise all live backends are dropped, the model that they were bound to is let go, and
then the backends for the request are built. -/
theorem events_transitionEntries_of_not_serves {s : Session kit} {request : Request}
    (h : s.backends.serves request = false) :
    (s.transitionEntries request).events =
      (s.backends.roster.map fun backend => .dropped backend.1 backend.2) ++
        ((s.withoutBackends.partings s.backends.bound?).events ++
          (request.builds s.workshop.nextSerial).map fun backend =>
            .built backend.1 backend.2) := by
  rw [transitionEntries, h, if_neg Bool.false_ne_true, Journal.events_append,
    Journal.events_append, Journal.events_append, events_replacementNotice, List.nil_append,
    Journal.events_ofDiscards, Journal.events_ofBuilds, List.append_assoc]

/-- A transition only drops and builds. -/
theorem dropped_or_built_of_mem {s : Session kit} {request : Request} {event : Event}
    (h : event ∈ (s.transitionEntries request).events) :
    ∃ role serial, event = .dropped role serial ∨ event = .built role serial := by
  cases hserves : s.backends.serves request with
  | true =>
    rw [events_transitionEntries_of_serves hserves] at h
    exact absurd h List.not_mem_nil
  | false =>
    rw [events_transitionEntries_of_not_serves hserves] at h
    rcases List.mem_append.mp h with h | h
    · obtain ⟨backend, -, rfl⟩ := List.mem_map.mp h
      exact ⟨backend.1, backend.2, Or.inl rfl⟩
    rcases List.mem_append.mp h with h | h
    · obtain ⟨serial, -, rfl⟩ := eq_dropped_of_mem_partings h
      exact ⟨.curvature, serial, Or.inl rfl⟩
    · obtain ⟨backend, -, rfl⟩ := List.mem_map.mp h
      exact ⟨backend.1, backend.2, Or.inr rfl⟩

/-- The events of a call that was resolved: the transition, and after it the run. -/
theorem CarriedOut.events {resolved s' : Session kit} {request : Request}
    {answer : Except OptimizerError Unit} (h : resolved.CarriedOut request s' answer) :
    ∃ runs : Journal, runs.IsRunOf s'.backends.roster ∧ s'.events =
      resolved.events ++ (resolved.transitionEntries request).events ++ runs.events := by
  obtain ⟨runs, hruns, hjournal⟩ := h.journal
  have hclosing : (s'.closing answer).events = [] := by
    cases answer <;> rfl
  refine ⟨runs, hruns, ?_⟩
  calc s'.workshop.journal.events
      = resolved.events ++
          Journal.events (resolved.transitionEntries request ++ runs ++ s'.closing answer) := by
        rw [hjournal, Journal.events_append]
        rfl
    _ = resolved.events ++ (resolved.transitionEntries request).events ++ runs.events := by
        rw [Journal.events_append, Journal.events_append, hclosing, List.append_nil,
          List.append_assoc]

/-- The building of the model that a request needs when the coordinator has none. -/
def modelBuilds (s : Session kit) (request : Request) : List Event :=
  if s.subproblem = none ∧ request.algorithm = .trustRegion then
    [.built .curvature s.workshop.nextSerial]
  else []

variable [Scalar R]

/-- Resolving the configuration enters exactly the building of a missing model. -/
theorem events_resolve {s resolved : Session kit} {request : Request}
    (h : s.resolve = .ok (request, resolved)) :
    resolved.events = s.events ++ s.modelBuilds request ∧
      ModelEvents s.workshop.nextSerial (s.modelBuilds request) resolved.workshop.nextSerial := by
  obtain ⟨-, ⟨rfl, hown⟩ | ⟨hnone, rfl, kind, size, -, rfl⟩⟩ := resolve_cases h
  · have hnothing : resolved.modelBuilds request = [] := by
      apply if_neg
      rintro ⟨hnone, halgorithm⟩
      cases request with
      | interiorPoint checkpoint => cases halgorithm
      | trustRegion handle =>
        rw [hown handle rfl] at hnone
        cases hnone
      | asymptotes => cases halgorithm
    rw [hnothing, List.append_nil]
    exact ⟨rfl, .nil _⟩
  · have hbuilt : s.modelBuilds (.trustRegion s.workshop.nextSerial) =
        [.built .curvature s.workshop.nextSerial] := if_pos ⟨hnone, rfl⟩
    rw [hbuilt]
    refine ⟨?_, .build (.nil _)⟩
    show Journal.events (s.workshop.journal ++ [_] ++ [_]) = _
    rw [Journal.events_append, Journal.events_append, List.append_assoc]
    rfl

end Session

variable [Scalar R]

namespace Step

/-- The kinds of steps: an operation that runs no strategy, a call that is refused because of an
error of the configuration, and a call that is carried out. -/
inductive Kind : Step kit → Prop
  | aside {step : Step kit} (h : ∀ condition, step.operation ≠ .optimize condition) : Kind step
  | refused {s : Session kit} {e : OptimizerError} (condition : kit.Condition)
      (h : s.resolve = .error e) : Kind ⟨s, .optimize condition⟩
  | carriedOut {s resolved : Session kit} {request : Request} (condition : kit.Condition)
      (h : s.resolve = .ok (request, resolved)) : Kind ⟨s, .optimize condition⟩

/-- Every step is of one of the kinds. -/
theorem kind (step : Step kit) : step.Kind := by
  obtain ⟨s, operation⟩ := step
  by_cases hruns : ∃ condition, operation = .optimize condition
  · obtain ⟨condition, rfl⟩ := hruns
    cases hresolve : s.resolve with
    | error e => exact .refused condition hresolve
    | ok resolved => exact .carriedOut condition hresolve
  · exact .aside fun condition heq => hruns ⟨condition, heq⟩

/-- A call with an error in its configuration leaves a log record of it. -/
theorem after_of_error {s : Session kit} {e : OptimizerError} (h : s.resolve = .error e)
    (condition : kit.Condition) : (Step.mk s (.optimize condition)).after = s.log (.refused e) :=
  congrArg Prod.fst (Session.optimize_of_error h condition)

/-- An operation that runs no strategy builds and drops models only. -/
theorem modelEvents (step : Step kit)
    (h : ∀ condition, step.operation ≠ .optimize condition) :
    ModelEvents step.before.workshop.nextSerial step.events step.after.workshop.nextSerial := by
  obtain ⟨entries, hentries, hevents⟩ := (step.before.perform_aside h).journal
  have hseen : step.seen.entries = entries :=
    List.append_cancel_left (step.journal_after.symm.trans hentries)
  rw [events, hseen]
  exact hevents

/-- A step that only logs enters no event. -/
theorem events_of_log {step : Step kit} {record : LogRecord}
    (h : step.after = step.before.log record) : step.events = [] := by
  have hevents := step.events_after
  rw [h, Session.events, Session.log, Workshop.log, Journal.events_append] at hevents
  exact (List.append_cancel_left hevents).symm

/-- The events of a call that passes the checks of the configuration: the building of a missing
model, the transition, and the run. -/
theorem events_of_resolved {s resolved : Session kit} {request : Request}
    (h : s.resolve = .ok (request, resolved)) (condition : kit.Condition) :
    ∃ runs : Journal, runs.IsRunOf (s.optimize condition).1.backends.roster ∧
      (Step.mk s (.optimize condition)).events =
        s.modelBuilds request ++ ((resolved.transitionEntries request).events ++ runs.events) := by
  obtain ⟨hresolved, -⟩ := Session.events_resolve h
  obtain ⟨runs, hruns, hevents⟩ := (Session.optimize_of_ok h condition).events
  have hafter := (Step.mk s (.optimize condition)).events_after
  refine ⟨runs, hruns, List.append_cancel_left (hafter.symm.trans ?_)⟩
  rw [← List.append_assoc, ← List.append_assoc, ← hresolved]
  exact hevents

end Step

end StrategyCoordinator
