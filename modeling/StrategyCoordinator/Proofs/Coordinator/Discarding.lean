import StrategyCoordinator.Proofs.Coordinator.Parting

/-!
# What is given up with the backends

Live backends hold the model that they were built on. When they are replaced, or dropped with the
coordinator, its handle is given up after all of them were dropped, and before any others are built.
A call that keeps the backends gives up nothing. The new backends are bound to the coordinator's
model, so they take no handle that was not held already.
-/

namespace StrategyCoordinator

variable {R : Type} {kit : SolverKit R}

/-- No approximation is dropped with the live backends themselves. -/
theorem Backends.not_curvature_of_drops (backends : Backends kit) (handle : Nat) :
    .dropped .curvature handle ∉
      backends.roster.map fun backend => Event.dropped backend.1 backend.2 := by
  intro hmem
  obtain ⟨backend, hbackend, heq⟩ := List.mem_map.mp hmem
  exact backends.ne_curvature_of_mem_roster backend hbackend (Event.dropped.inj heq).1

/-- No approximation is built with the backends for a request. -/
theorem Request.not_curvature_of_builds (request : Request) (next handle : Nat) :
    .built .curvature handle ∉
      (request.builds next).map fun backend => Event.built backend.1 backend.2 := by
  intro hmem
  obtain ⟨backend, hbackend, heq⟩ := List.mem_map.mp hmem
  exact request.ne_curvature_of_mem_builds next backend hbackend (Event.built.inj heq).1

namespace Session

/-- A model that is held without the live backends is held, and so is the one that they are bound
to. -/
theorem isHeld_iff_withoutBackends {s : Session kit} {handle : Nat} :
    s.isHeld handle = true ↔
      s.withoutBackends.isHeld handle = true ∨ s.backends.bound? = some handle := by
  rw [isHeld_iff_find?, isHeld_iff_find?]
  constructor
  · rintro (hown | hbound | hcaller)
    · exact .inl (.inl hown)
    · exact .inr hbound
    · exact .inl (.inr (.inr hcaller))
  · rintro ((hown | ⟨⟨⟩⟩ | hcaller) | hbound)
    · exact .inl hown
    · exact .inr (.inr hcaller)
    · exact .inr (.inl hbound)

/-- The building of a missing model drops nothing. -/
theorem not_dropped_of_modelBuilds (s : Session kit) (request : Request) (role : Role)
    (serial : Nat) : .dropped role serial ∉ s.modelBuilds request := by
  unfold modelBuilds
  split <;> simp

/-- States with the same holders hold the same models. -/
theorem isHeld_congr {s s' : Session kit} (hown : s'.subproblem = s.subproblem)
    (hbound : s'.backends.bound? = s.backends.bound?) (hheld : s'.held = s.held) (handle : Nat) :
    s'.isHeld handle = s.isHeld handle := by
  rw [isHeld, isHeld, hown, hbound, hheld]

/-- Nothing happens to an approximation in a run. -/
theorem not_curvature_of_run {roster : List (Role × Nat)} {runs : Journal}
    (h : runs.IsRunOf roster) (handle : Nat) :
    .built .curvature handle ∉ runs.events ∧ .dropped .curvature handle ∉ runs.events := by
  refine ⟨h.not_built .curvature handle, fun hmem => ?_⟩
  rcases Journal.ran_or_checkpoint_of_mem h.reportsRun hmem with ⟨path, heq⟩ | ⟨backend, -, heq⟩
  · cases heq
  · cases heq

/-- What dropping the live backends leaves. -/
theorem dropBackends_keeps (s : Session kit) :
    s.dropBackends.subproblem = s.subproblem ∧ s.dropBackends.backends = .uninitialized ∧
      s.dropBackends.held = s.held ∧
      s.dropBackends.workshop.nextSerial = s.workshop.nextSerial := by
  cases h : s.backends with
  | trustRegion tr ip bound =>
    simp only [dropBackends, h, letGo_eq]
    exact ⟨rfl, rfl, rfl, rfl⟩
  | uninitialized | interiorPoint | asymptotes =>
    simp only [dropBackends, h]
    exact ⟨rfl, rfl, rfl, rfl⟩

/-- Dropping the live backends gives up the handle of the model that they were bound to, after all
of them were dropped. -/
theorem dropBackends_parts (s : Session kit) :
    s.Parts (s.backends.roster.map fun backend => .dropped backend.1 backend.2)
      s.backends.bound? [] s.dropBackends := by
  obtain ⟨hown, hbackends, hheld, hserial⟩ := s.dropBackends_keeps
  have hbound : s.dropBackends.backends.bound? = s.withoutBackends.backends.bound? := by
    rw [hbackends]
    rfl
  have hsame (handle : Nat) : s.dropBackends.isHeld handle = s.withoutBackends.isHeld handle :=
    isHeld_congr (s := s.withoutBackends) hown hbound hheld handle
  refine ⟨?_, fun handle hhandle => ?_, fun handle hhandle => ?_, fun handle hhandle => ?_,
    by simp, hserial.ge, s.backends.not_curvature_of_drops,
    fun _ => ⟨List.not_mem_nil, List.not_mem_nil⟩⟩
  · rw [partings_congr hsame, s.events_dropBackends, List.append_nil, List.append_assoc]
  · exact isHeld_iff_find?.mpr (.inr (.inl hhandle))
  · rw [hsame]
    exact isHeld_iff_withoutBackends.mp hhandle
  · rw [hsame] at hhandle
    exact .inl (isHeld_iff_withoutBackends.mpr (.inl hhandle))

/-- After the live backends the coordinator gives up its own handle. -/
theorem dispose_parts (s : Session kit) :
    s.dropBackends.Parts [] s.subproblem [] s.dispose := by
  have hown : s.dropBackends.subproblem = s.subproblem := s.dropBackends_keeps.1
  rw [← hown]
  exact (SameHolders.refl s.dropBackends).replaceHandle nofun nofun fun _ => List.not_mem_nil

variable [Scalar R]

/-- Resolving the configuration takes a handle of the model that it builds, if it builds one, and
otherwise none. -/
theorem isHeld_resolved {s resolved : Session kit} {request : Request}
    (h : s.resolve = .ok (request, resolved)) :
    (∀ handle, resolved.isHeld handle = true ↔
      s.isHeld handle = true ∨ .built .curvature handle ∈ s.modelBuilds request) ∧
    ∀ handle, .built .curvature handle ∈ s.modelBuilds request →
      handle = s.workshop.nextSerial ∧ handle < resolved.workshop.nextSerial ∧
        resolved.subproblem = some handle := by
  obtain ⟨hevents, -⟩ := events_resolve h
  obtain ⟨-, ⟨rfl, -⟩ | ⟨hnone, rfl, kind, size, -, rfl⟩⟩ := resolve_cases h
  · have hnothing : resolved.modelBuilds request = [] := List.self_eq_append_right.mp hevents
    simp [hnothing]
  · have hbuilt : s.modelBuilds (.trustRegion s.workshop.nextSerial) =
        [.built .curvature s.workshop.nextSerial] := if_pos ⟨hnone, rfl⟩
    rw [hbuilt]
    refine ⟨fun handle => ⟨fun hheld => ?_, ?_⟩, fun handle hmem => ?_⟩
    · rcases isHeld_iff_find?.mp hheld with ⟨⟨⟩⟩ | hother
      · exact .inr (List.mem_singleton_self _)
      · exact .inl (isHeld_iff_find?.mpr (.inr hother))
    · rintro (hheld | hmem)
      · rcases isHeld_iff_find?.mp hheld with hown | hother
        · rw [hnone] at hown
          cases hown
        · exact isHeld_iff_find?.mpr (.inr hother)
      · obtain ⟨-, rfl⟩ := Event.built.inj (List.mem_singleton.mp hmem)
        exact isHeld_iff_find?.mpr (.inl rfl)
    · obtain ⟨-, rfl⟩ := Event.built.inj (List.mem_singleton.mp hmem)
      exact ⟨rfl, Nat.lt_succ_self _, rfl⟩

/-- A call whose backends are kept gives up nothing. -/
theorem optimize_parts_of_serves {s resolved : Session kit} {request : Request}
    (h : s.resolve = .ok (request, resolved)) (hserves : resolved.backends.serves request = true)
    (condition : kit.Condition) :
    ∃ ending, s.Parts (s.modelBuilds request) none ending (s.optimize condition).1 := by
  obtain ⟨hheld, hbuilt⟩ := isHeld_resolved h
  have hcarried := optimize_of_ok h condition
  obtain ⟨runs, hruns, hevents⟩ := Step.events_of_resolved h condition
  have hafter := (Step.mk s (.optimize condition)).events_after
  have hbound : (s.optimize condition).1.backends.bound? = resolved.backends.bound? := by
    rw [Backends.bound?_eq, hcarried.assembly, alignedAssembly, if_pos hserves,
      ← Backends.bound?_eq]
  have hsame := isHeld_congr hcarried.subproblem hbound hcarried.held
  have hserial : (s.optimize condition).1.workshop.nextSerial =
      resolved.workshop.nextSerial := by
    rw [hcarried.nextSerial, alignedSerial, if_pos hserves]
  refine ⟨runs.events, ?_, by simp, fun handle hhandle => .inl ?_, fun handle hhandle => ?_,
    fun handle hhandle => ?_, ?_, s.not_dropped_of_modelBuilds request .curvature,
    not_curvature_of_run hruns⟩
  · rw [hevents, events_transitionEntries_of_serves hserves] at hafter
    exact hafter
  · rw [hsame, hheld]
    exact .inl hhandle
  · rwa [hsame, hheld] at hhandle
  · obtain ⟨hnumber, hlt, -⟩ := hbuilt handle hhandle
    rw [hsame, hserial, hheld]
    exact ⟨hnumber.ge, hlt, .inr hhandle⟩
  · rw [hserial]
    exact (events_resolve h).2.le

/-- After a call that replaces the live backends, those models are held that were held without
these. -/
theorem isHeld_replaced {s resolved : Session kit} {request : Request}
    (h : s.resolve = .ok (request, resolved)) (hserves : resolved.backends.serves request = false)
    (condition : kit.Condition) (handle : Nat) :
    (s.optimize condition).1.isHeld handle = resolved.withoutBackends.isHeld handle := by
  have hcarried := optimize_of_ok h condition
  -- The new backends are bound to the coordinator's model, if they are bound to any.
  have hbound (hhandle : (s.optimize condition).1.backends.bound? = some handle) :
      resolved.subproblem = some handle := by
    rw [Backends.bound?_eq, hcarried.assembly, alignedAssembly, hserves] at hhandle
    cases request with
    | trustRegion requested =>
      obtain rfl : requested = handle := Option.some.inj hhandle
      exact subproblem_of_resolve h requested rfl
    | interiorPoint | asymptotes => cases hhandle
  rw [Bool.eq_iff_iff, isHeld_iff_find?, isHeld_iff_find?, hcarried.subproblem, hcarried.held]
  constructor
  · rintro (hown | hnew | hcaller)
    · exact .inl hown
    · exact .inl (hbound hnew)
    · exact .inr (.inr hcaller)
  · rintro (hown | ⟨⟨⟩⟩ | hcaller)
    · exact .inl hown
    · exact .inr (.inr hcaller)

/-- A call that replaces the live backends gives up the handle of the model that they were bound
to, after all of them were dropped and before others are built. -/
theorem optimize_parts_of_not_serves {s resolved : Session kit} {request : Request}
    (h : s.resolve = .ok (request, resolved)) (hserves : resolved.backends.serves request = false)
    (condition : kit.Condition) :
    ∃ ending, s.Parts
      (s.modelBuilds request ++ s.backends.roster.map fun backend => .dropped backend.1 backend.2)
      s.backends.bound? ending (s.optimize condition).1 := by
  obtain ⟨hheld, hbuilt⟩ := isHeld_resolved h
  have hcarried := optimize_of_ok h condition
  have hbackends : resolved.backends = s.backends := (resolve_aside h).backends
  obtain ⟨runs, hruns, hevents⟩ := Step.events_of_resolved h condition
  have hafter := (Step.mk s (.optimize condition)).events_after
  have hsame := isHeld_replaced h hserves condition
  have hleft (handle : Nat) : resolved.isHeld handle = true ↔
      (s.optimize condition).1.isHeld handle = true ∨ s.backends.bound? = some handle := by
    rw [hsame, isHeld_iff_withoutBackends, hbackends]
  have hserial : (s.optimize condition).1.workshop.nextSerial =
      resolved.workshop.nextSerial + (request.builds resolved.workshop.nextSerial).length := by
    rw [hcarried.nextSerial, alignedSerial, hserves, if_neg Bool.false_ne_true]
  refine ⟨((request.builds resolved.workshop.nextSerial).map fun backend =>
    .built backend.1 backend.2) ++ runs.events, ?_, fun handle hhandle => ?_,
    fun handle hhandle => ?_, fun handle hhandle => ?_, fun handle hhandle => ?_, ?_,
    fun handle hmem => ?_, fun handle => ?_⟩
  · rw [hevents, events_transitionEntries_of_not_serves hserves, hbackends] at hafter
    rw [partings_congr hsame]
    have hwhole : (s.optimize condition).1.events = _ := hafter
    rw [hwhole]
    simp only [List.append_assoc]
  · exact isHeld_iff_find?.mpr (.inr (.inl hhandle))
  · exact (hleft handle).mp ((hheld handle).mpr (.inl hhandle))
  · have hresolved := (hheld handle).mp ((hleft handle).mpr (.inl hhandle))
    exact hresolved.imp_right (List.mem_append_left _)
  · have hmodel : .built .curvature handle ∈ s.modelBuilds request := by simpa using hhandle
    obtain ⟨hnumber, hlt, hown⟩ := hbuilt handle hmodel
    rw [hserial]
    refine ⟨hnumber.ge, Nat.lt_add_right _ hlt, isHeld_iff_find?.mpr (.inl ?_)⟩
    exact hcarried.subproblem.trans hown
  · rw [hserial]
    exact Nat.le_add_right_of_le (events_resolve h).2.le
  · rcases List.mem_append.mp hmem with hmem | hmem
    · exact s.not_dropped_of_modelBuilds request .curvature handle hmem
    · exact s.backends.not_curvature_of_drops handle hmem
  · obtain ⟨hnotBuilt, hnotDropped⟩ := not_curvature_of_run hruns handle
    have hbuilds := request.not_curvature_of_builds resolved.workshop.nextSerial handle
    simp [hnotBuilt, hnotDropped, hbuilds]

/-- Every operation gives up at most one handle. -/
theorem perform_parts (s : Session kit) (operation : Operation kit) :
    ∃ opening lost ending, s.Parts opening lost ending (s.perform operation).1 := by
  cases (Step.mk s operation).kind with
  | aside haside =>
    obtain ⟨opening, lost, hparts⟩ := s.aside_parts haside
    exact ⟨opening, lost, [], hparts⟩
  | @refused _ e condition hresolve =>
    have hafter : (s.perform (.optimize condition)).1 = s.log (.refused e) :=
      Step.after_of_error hresolve condition
    rw [hafter]
    exact ⟨[], none, [], .of_same (s.events_log _) rfl fun _ => rfl⟩
  | @carriedOut _ resolved request condition hresolve =>
    cases hserves : resolved.backends.serves request with
    | true =>
      obtain ⟨ending, hparts⟩ := optimize_parts_of_serves hresolve hserves condition
      exact ⟨_, none, ending, hparts⟩
    | false =>
      obtain ⟨ending, hparts⟩ := optimize_parts_of_not_serves hresolve hserves condition
      exact ⟨_, _, ending, hparts⟩

end Session

end StrategyCoordinator
