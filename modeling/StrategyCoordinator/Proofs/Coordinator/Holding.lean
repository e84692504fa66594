import StrategyCoordinator.Proofs.Coordinator.Aside
import StrategyCoordinator.Proofs.Coordinator.History
import StrategyCoordinator.Proofs.NameMap

/-!
# Held models are there

Every model that somebody holds is on the shelf, and every model on the shelf has a serial
number that was given before. No operation breaks this: a model is removed only when nobody
holds it, and a handle is taken only of a model that is held already or was just built. A
freshly built model is therefore never one that live backends are bound to.
-/

namespace StrategyCoordinator

variable {R : Type} {kit : SolverKit R}

namespace Session

/-- The holders of a model: the coordinator, the live backends, and the named handles. -/
theorem isHeld_iff {s : Session kit} {handle : Nat} :
    s.isHeld handle = true ↔ s.subproblem = some handle ∨ s.backends.bound? = some handle ∨
      ∃ name, (name, handle) ∈ s.held.entries := by
  simp [isHeld, or_assoc]

/-- Held models are on the shelf, and what is on the shelf was counted. -/
structure Stocked (s : Session kit) : Prop where
  held : ∀ handle, s.isHeld handle = true → (s.workshop.models.get? handle).isSome = true
  counted : ∀ handle, (s.workshop.models.get? handle).isSome = true →
    handle < s.workshop.nextSerial

/-- At the start nothing is held and nothing is on the shelf. -/
theorem new_stocked (kit : SolverKit R) (problem : Problem R) (options : OptionStore) :
    (new kit problem options).Stocked :=
  ⟨nofun, nofun⟩

namespace Stocked

variable {s s' : Session kit}

/-- A held model has a serial number that was given before. -/
theorem lt_of_isHeld (h : s.Stocked) {handle : Nat} (hheld : s.isHeld handle = true) :
    handle < s.workshop.nextSerial :=
  h.counted handle (h.held handle hheld)

/-- Nobody else may hold what was not held before, unless it is there. -/
theorem of_held (h : s.Stocked) (hmodels : s'.workshop.models = s.workshop.models)
    (hserial : s'.workshop.nextSerial = s.workshop.nextSerial)
    (hheld : ∀ handle, s'.isHeld handle = true →
      s.isHeld handle = true ∨ (s.workshop.models.get? handle).isSome = true) : s'.Stocked := by
  refine ⟨fun handle hhandle => ?_, fun handle hhandle => ?_⟩
  · rw [hmodels]
    exact (hheld handle hhandle).elim (h.held handle) id
  · rw [hmodels] at hhandle
    rw [hserial]
    exact h.counted handle hhandle

/-- A log record holds nothing. -/
theorem log (h : s.Stocked) (record : LogRecord) : (s.log record).Stocked :=
  h.of_held rfl rfl fun _ => Or.inl

/-- What is left after letting go of a model was there before. -/
theorem isSome_of_remainingModels {handle : Option Nat} {other : Nat}
    (h : ((s.remainingModels handle).get? other).isSome = true) :
    (s.workshop.models.get? other).isSome = true := by
  by_cases hother : s.isHeld other = true ∨ handle ≠ some other
  · rwa [s.get?_remainingModels handle hother] at h
  · obtain ⟨hheld, rfl⟩ : ¬s.isHeld other = true ∧ handle = some other := by simpa using hother
    simp [remainingModels, hheld] at h

/-- Letting go of a model removes it only if nobody holds it. -/
theorem letGo (h : s.Stocked) (handle : Option Nat) : (s.letGo handle).Stocked := by
  rw [letGo_eq]
  refine ⟨fun other hother => ?_, fun other hother => ?_⟩
  · have hheld : s.isHeld other = true := hother
    show ((s.remainingModels handle).get? other).isSome = true
    rw [s.get?_remainingModels handle (Or.inl hheld)]
    exact h.held other hheld
  · exact h.counted other (isSome_of_remainingModels hother)

/-- The coordinator may take a handle of a model that is there. -/
theorem replaceHandle (h : s.Stocked) {handle : Option Nat}
    (hhandle : ∀ own, handle = some own → (s.workshop.models.get? own).isSome = true) :
    (s.replaceHandle handle).Stocked := by
  have hset : Stocked { s with subproblem := handle } := h.of_held rfl rfl fun other hother => by
    rcases isHeld_iff.mp hother with hown | hrest
    · exact Or.inr (hhandle other hown)
    · exact Or.inl (isHeld_iff.mpr (Or.inr hrest))
  exact hset.letGo s.subproblem

/-- A model that is there may be put in place. -/
theorem setSubproblem (h : s.Stocked) {handle : Nat}
    (hhandle : (s.workshop.models.get? handle).isSome = true) :
    (s.setSubproblem handle).Stocked := by
  unfold Session.setSubproblem
  split
  · exact ((h.log .foreignSubproblem).log .replacingSubproblem).replaceHandle fun own hown =>
      Option.some.inj hown ▸ hhandle
  · exact (h.log .replacingSubproblem).replaceHandle fun own hown =>
      Option.some.inj hown ▸ hhandle

/-- Callers may keep handles of models that are held. -/
theorem withHeld (h : s.Stocked) {held : NameMap Nat}
    (hheld : ∀ name handle, (name, handle) ∈ held.entries → s.isHeld handle = true) :
    Stocked { s with held } :=
  h.of_held rfl rfl fun handle hhandle => by
    rcases isHeld_iff.mp hhandle with hown | hbound | ⟨name, hmem⟩
    · exact Or.inl (isHeld_iff.mpr (Or.inl hown))
    · exact Or.inl (isHeld_iff.mpr (Or.inr (Or.inl hbound)))
    · exact Or.inl (hheld name handle hmem)

/-- A handle of the coordinator's model may be kept. -/
theorem hold (h : s.Stocked) (name : String) : (s.hold name).2.Stocked := by
  unfold Session.hold
  split
  next => exact h
  next own hown =>
    refine letGo (h.withHeld fun other handle hmem => isHeld_iff.mpr ?_) (s.held.find? name)
    rcases NameMap.mem_place hmem with heq | hmem
    · exact Or.inl ((Prod.mk.inj heq).2 ▸ hown)
    · exact Or.inr (Or.inr ⟨other, hmem⟩)

/-- A kept handle may be let go of. -/
theorem release (h : s.Stocked) (name : String) : (s.release name).2.Stocked := by
  unfold Session.release
  split
  next => exact h
  next handle _ =>
    have herased : Stocked { s with held := s.held.erase name } :=
      h.withHeld fun other handle hmem =>
        isHeld_iff.mpr (Or.inr (Or.inr ⟨other, (List.mem_filter.mp hmem).1⟩))
    exact herased.letGo (some handle)

/-- The model of a kept handle may be put in place. -/
theorem setHeldSubproblem (h : s.Stocked) (name : String) :
    (s.setHeldSubproblem name).Stocked := by
  unfold Session.setHeldSubproblem
  split
  next => exact h
  next handle hfind =>
    have hheld := isHeld_iff.mpr (Or.inr (Or.inr ⟨name, NameMap.mem_of_find? hfind⟩))
    exact h.setSubproblem (h.held handle hheld)

/-- Changing a model leaves it where it is. -/
theorem changeThrough (h : s.Stocked) (handle : Option Nat) (change : ModelChange R) :
    (s.changeThrough handle change).2.Stocked := by
  unfold Session.changeThrough
  split
  next => exact h
  next handle =>
    split
    next => exact h
    next => exact ⟨fun other hother => (Shelf.isSome_get?_modify ..).trans (h.held other hother),
        fun other hother => h.counted other ((Shelf.isSome_get?_modify ..).symm.trans hother)⟩

/-- Running the live backends takes no handle and removes nothing. -/
theorem run (h : s.Stocked) (hrun : s.RunLeaves s') : s'.Stocked := by
  have hbound : s'.backends.bound? = s.backends.bound? := by
    rw [Backends.bound?_eq, Backends.bound?_eq, hrun.assembly]
  refine ⟨fun handle hhandle => ?_, fun handle hhandle => ?_⟩
  · rw [hrun.models]
    refine h.held handle ?_
    rwa [isHeld_iff, hrun.subproblem, hbound, hrun.held, ← isHeld_iff] at hhandle
  · rw [hrun.models] at hhandle
    rw [hrun.nextSerial]
    exact h.counted handle hhandle

/-- Replaced backends are bound to a model only if it was requested. -/
theorem replaced (h : s.Stocked) {request : Request} (hreplaced : s.ReplacedFor request s')
    (hown : ∀ handle, request = .trustRegion handle → s.subproblem = some handle) :
    s'.Stocked := by
  have hbound : ∀ handle, s'.backends.bound? = some handle → s.subproblem = some handle := by
    intro handle hhandle
    rw [Backends.bound?_eq, hreplaced.assembly] at hhandle
    cases request with
    | trustRegion requested => exact hown handle (by rw [Option.some.inj hhandle])
    | interiorPoint | asymptotes => cases hhandle
  refine ⟨fun handle hhandle => ?_, fun handle hhandle => ?_⟩
  · have hheld : s.withoutBackends.isHeld handle = true := by
      rw [isHeld_iff, hreplaced.subproblem, hreplaced.held] at hhandle
      rcases hhandle with hhandle | hhandle | hhandle
      · exact isHeld_iff.mpr (Or.inl hhandle)
      · exact isHeld_iff.mpr (Or.inl (hbound handle hhandle))
      · exact isHeld_iff.mpr (Or.inr (Or.inr hhandle))
    rw [hreplaced.models, s.withoutBackends.get?_remainingModels _ (Or.inl hheld)]
    refine h.held handle (isHeld_iff.mpr ?_)
    rcases isHeld_iff.mp hheld with hhandle | hhandle | hhandle
    · exact Or.inl hhandle
    · cases hhandle
    · exact Or.inr (Or.inr hhandle)
  · rw [hreplaced.models] at hhandle
    have hcounted := h.counted handle (isSome_of_remainingModels (s := s.withoutBackends) hhandle)
    exact hreplaced.nextSerial ▸ Nat.lt_add_right _ hcounted

/-- A transition to a request takes no handle but that of the coordinator's model. -/
theorem transition (h : s.Stocked) {request : Request}
    (hown : ∀ handle, request = .trustRegion handle → s.subproblem = some handle) :
    (s.transition request).Stocked := by
  cases hserves : s.backends.serves request with
  | true => rwa [s.transition_of_serves hserves]
  | false => exact h.replaced (s.transition_replacedFor hserves) hown

variable [Scalar R]

/-- A model that was just built is there. -/
theorem buildModel (h : s.Stocked) (source : ProblemObject R) (kind : QuasiNewtonKind)
    (size : Nat) :
    Stocked { s with workshop := (s.workshop.buildModel source kind size).2 } := by
  refine ⟨fun handle hhandle => ?_, fun handle hhandle => ?_⟩
  · have hheld : s.isHeld handle = true := hhandle
    have hne : handle ≠ s.workshop.nextSerial := Nat.ne_of_lt (h.lt_of_isHeld hheld)
    exact (congrArg Option.isSome (Shelf.get?_put_of_ne _ _ hne)).trans (h.held handle hheld)
  · by_cases heq : handle = s.workshop.nextSerial
    · exact heq ▸ Nat.lt_succ_self _
    · rw [Workshop.buildModel, Shelf.get?_put_of_ne _ _ heq] at hhandle
      exact Nat.lt_succ_of_lt (h.counted handle hhandle)

/-- A model may be built and put in place. -/
theorem injectSubproblem (h : s.Stocked) (kind : QuasiNewtonKind) (size : Nat)
    (problem : Option (Problem R)) : (s.injectSubproblem kind size problem).Stocked :=
  (h.buildModel _ kind size).setSubproblem (congrArg Option.isSome (Shelf.get?_put_self _ _ _))

/-- Making sure of a model keeps everything held on the shelf. -/
theorem resolve (h : s.Stocked) {resolved : Session kit} {request : Request}
    (hresolve : s.resolve = .ok (request, resolved)) : resolved.Stocked := by
  obtain ⟨-, ⟨rfl, -⟩ | ⟨-, -, kind, size, -, rfl⟩⟩ := resolve_cases hresolve
  · exact h
  · have hlogged := h.log (.buildingSubproblem kind size)
    have hbuilt := hlogged.buildModel s.workshop.optimizedProblem kind size
    refine hbuilt.of_held rfl rfl fun handle hhandle => ?_
    rcases isHeld_iff.mp hhandle with hown | hrest
    · cases hown
      exact Or.inr (congrArg Option.isSome (Shelf.get?_put_self _ _ _))
    · exact Or.inl (isHeld_iff.mpr (Or.inr hrest))

end Stocked

variable [Scalar R]

/-- Running a strategy keeps held models on the shelf. -/
theorem optimize_stocked {s : Session kit} (h : s.Stocked) (condition : kit.Condition) :
    (s.optimize condition).1.Stocked :=
  optimize_invariant (fun _ record hs => hs.log record)
    (fun _ _ _ hresolve hs => hs.resolve hresolve) (fun _ _ hown hs => hs.transition hown)
    (fun _ _ hrun hs => hs.run hrun) s condition h

/-- Every operation keeps held models on the shelf. -/
theorem perform_stocked (s : Session kit) (operation : Operation kit) (h : s.Stocked) :
    (s.perform operation).1.Stocked := by
  cases operation with
  | setOptions options => exact h.of_held rfl rfl fun _ => Or.inl
  | changeModel change => exact h.changeThrough s.subproblem change
  | changeHeld name change => exact h.changeThrough (s.held.find? name) change
  | inject kind size problem => exact h.injectSubproblem kind size problem
  | injectHeld name => exact h.setHeldSubproblem name
  | clear => exact (h.log .clearingSubproblem).replaceHandle nofun
  | hold name => exact h.hold name
  | release name => exact h.release name
  | optimize condition => exact optimize_stocked h condition

/-- After every history held models are on the shelf. -/
theorem performAll_stocked (problem : Problem R) (options : OptionStore)
    (operations : List (Operation kit)) :
    ((new kit problem options).performAll operations).Stocked :=
  performAll_invariant perform_stocked (new_stocked kit problem options) operations

end Session

end StrategyCoordinator
