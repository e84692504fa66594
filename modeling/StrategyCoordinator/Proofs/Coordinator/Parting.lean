import StrategyCoordinator.Proofs.Coordinator.Handles
import StrategyCoordinator.Proofs.Coordinator.Lifetime
import StrategyCoordinator.Proofs.Coordinator.Holding

/-!
# What is given up in a step

A step takes at most one handle away from a holder: the coordinator's own one when another model
is put in place, a kept one when its name is taken or it is let go of, and that of the live backends
when they are replaced. Nobody else lets go of anything, and the only new handle is one of a model
that was just built. So the approximation that is dropped in a step, if there is one, is that of the
handle that was given up, and it is dropped exactly if nobody holds that model any more.
-/

namespace StrategyCoordinator

variable {R : Type} {kit : SolverKit R}

namespace Session

/-- Letting go of a model changes no holder. -/
@[simp] theorem isHeld_letGo (s : Session kit) (lost : Option Nat) (handle : Nat) :
    (s.letGo lost).isHeld handle = s.isHeld handle := by
  rw [letGo_eq]
  rfl

/-- Who holds the model decides whether its approximation is dropped. -/
theorem partings_congr {s s' : Session kit} (h : ∀ handle, s'.isHeld handle = s.isHeld handle)
    (lost : Option Nat) : s'.partings lost = s.partings lost := by
  cases lost with
  | none => rfl
  | some handle => simp only [partings, h handle]

/-- Letting go of a model enters its drop, unless somebody holds it afterwards. -/
theorem events_letGo (s : Session kit) (lost : Option Nat) :
    (s.letGo lost).events = s.events ++ ((s.letGo lost).partings lost).events := by
  rw [partings_congr (s.isHeld_letGo lost), letGo_eq, events, Journal.events_append]
  rfl

/-- Letting go of a model that somebody holds enters nothing. -/
theorem events_partings_of_isHeld {s : Session kit} {handle : Nat} (h : s.isHeld handle = true) :
    (s.partings (some handle)).events = [] := by
  simp [partings, h, Journal.events]

/-- Letting go of a model that nobody holds enters the drop of its approximation. -/
theorem events_partings_of_not_isHeld {s : Session kit} {handle : Nat}
    (h : s.isHeld handle = false) :
    (s.partings (some handle)).events = [.dropped .curvature handle] := by
  simp [partings, h, Journal.events, JournalEntry.event?]

/-- The approximation of a model is dropped if it is given up and nobody holds it. -/
theorem dropped_mem_partings {s : Session kit} {lost : Option Nat} {handle : Nat} :
    .dropped .curvature handle ∈ (s.partings lost).events ↔
      lost = some handle ∧ s.isHeld handle = false := by
  cases lost with
  | none => simp [partings, Journal.events]
  | some other =>
    cases hheld : s.isHeld other with
    | true =>
      rw [events_partings_of_isHeld hheld]
      refine iff_of_false List.not_mem_nil ?_
      rintro ⟨⟨⟩, hleft⟩
      rw [hheld] at hleft
      cases hleft
    | false =>
      rw [events_partings_of_not_isHeld hheld, List.mem_singleton]
      constructor
      · rintro ⟨⟩
        exact ⟨rfl, hheld⟩
      · rintro ⟨⟨⟩, -⟩
        rfl

/-- From one state to another a handle was given up, after some events and before others. -/
structure Parts (s : Session kit) (opening : List Event) (lost : Option Nat) (ending : List Event)
    (s' : Session kit) : Prop where
  events : s'.events = s.events ++ (opening ++ ((s'.partings lost).events ++ ending))
  /-- What is given up was held. -/
  held : ∀ handle, lost = some handle → s.isHeld handle = true
  /-- Nothing else is given up. -/
  kept : ∀ handle, s.isHeld handle = true → s'.isHeld handle = true ∨ lost = some handle
  /-- Whatever is held was held before or was built. -/
  taken : ∀ handle, s'.isHeld handle = true →
    s.isHeld handle = true ∨ .built .curvature handle ∈ opening
  /-- A model is built under a new number, and it is held. -/
  built : ∀ handle, .built .curvature handle ∈ opening → s.workshop.nextSerial ≤ handle ∧
    handle < s'.workshop.nextSerial ∧ s'.isHeld handle = true
  serial : s.workshop.nextSerial ≤ s'.workshop.nextSerial
  /-- No approximation is dropped before the handle is given up, and nothing happens to one after
  that. -/
  before : ∀ handle, .dropped .curvature handle ∉ opening
  after : ∀ handle, .built .curvature handle ∉ ending ∧ .dropped .curvature handle ∉ ending

namespace Parts

variable {s s' : Session kit} {opening ending : List Event} {lost : Option Nat} {handle : Nat}

/-- The approximation of a model is dropped exactly if it was held and is not held any more. -/
theorem dropped_iff (h : s.Parts opening lost ending s') :
    .dropped .curvature handle ∈ opening ++ ((s'.partings lost).events ++ ending) ↔
      s.isHeld handle = true ∧ s'.isHeld handle = false := by
  have hbefore := h.before handle
  obtain ⟨-, hafter⟩ := h.after handle
  simp only [List.mem_append, hbefore, hafter, dropped_mem_partings, false_or, or_false]
  constructor
  · rintro ⟨hlost, hleft⟩
    exact ⟨h.held handle hlost, hleft⟩
  · rintro ⟨hheld, hleft⟩
    rcases h.kept handle hheld with hkept | hlost
    · rw [hleft] at hkept
      cases hkept
    · exact ⟨hlost, hleft⟩

/-- It is dropped right after the events of the opening. -/
theorem eq_opening (h : s.Parts opening lost ending s') {past : List Event}
    (hpast : past ++ [.dropped .curvature handle] <+:
      opening ++ ((s'.partings lost).events ++ ending)) :
    past = opening ∧ lost = some handle := by
  obtain ⟨hheld, hleft⟩ := h.dropped_iff.mp (hpast.subset List.mem_concat_self)
  have hlost : lost = some handle := by
    rcases h.kept handle hheld with hkept | hlost
    · rw [hleft] at hkept
      cases hkept
    · exact hlost
  obtain ⟨middle, rfl⟩ := isPrefix_of_not_mem hpast (h.before handle)
  rw [hlost, events_partings_of_not_isHeld hleft, List.append_assoc,
    List.prefix_append_right_inj] at hpast
  cases middle with
  | nil => exact ⟨List.append_nil opening, hlost⟩
  | cons event middle =>
    obtain ⟨-, hmiddle⟩ := List.cons_prefix_cons.mp hpast
    exact absurd (hmiddle.subset List.mem_concat_self) (h.after handle).2

/-- What changes neither handles nor events gives up nothing. -/
theorem of_same (hevents : s'.events = s.events)
    (hserial : s'.workshop.nextSerial = s.workshop.nextSerial)
    (hheld : ∀ handle, s'.isHeld handle = s.isHeld handle) : s.Parts [] none [] s' where
  events := by
    rw [hevents]
    exact (List.append_nil _).symm
  held := nofun
  kept handle hhandle := .inl ((hheld handle).trans hhandle)
  taken handle hhandle := .inl ((hheld handle).symm.trans hhandle)
  built := nofun
  serial := hserial.ge
  before _ := List.not_mem_nil
  after _ := ⟨List.not_mem_nil, List.not_mem_nil⟩

/-- A handle may be given up by letting go of its model, if its holder is the only one that
changes. -/
theorem of_letGo {t : Session kit} (hevents : t.events = s.events ++ opening)
    (held : ∀ handle, lost = some handle → s.isHeld handle = true)
    (kept : ∀ handle, s.isHeld handle = true → t.isHeld handle = true ∨ lost = some handle)
    (taken : ∀ handle, t.isHeld handle = true →
      s.isHeld handle = true ∨ .built .curvature handle ∈ opening)
    (built : ∀ handle, .built .curvature handle ∈ opening → s.workshop.nextSerial ≤ handle ∧
      handle < t.workshop.nextSerial ∧ t.isHeld handle = true)
    (serial : s.workshop.nextSerial ≤ t.workshop.nextSerial)
    (before : ∀ handle, .dropped .curvature handle ∉ opening) :
    s.Parts opening lost [] (t.letGo lost) := by
  have hserial : (t.letGo lost).workshop.nextSerial = t.workshop.nextSerial := by
    rw [letGo_eq]
  refine ⟨?_, held, ?_, ?_, ?_, ?_, before, fun _ => ⟨List.not_mem_nil, List.not_mem_nil⟩⟩
  · rw [events_letGo, hevents, List.append_nil, List.append_assoc]
  · simpa only [isHeld_letGo] using kept
  · simpa only [isHeld_letGo] using taken
  · simpa only [isHeld_letGo, hserial] using built
  · rw [hserial]
    exact serial

end Parts

/-- The holders of a model, with the kept handles by their names. -/
theorem isHeld_iff_find? {s : Session kit} {handle : Nat} :
    s.isHeld handle = true ↔ s.subproblem = some handle ∨ s.backends.bound? = some handle ∨
      ∃ name, s.held.find? name = some handle := by
  simp only [isHeld_iff, NameMap.find?_eq_some_iff]

/-- The holders of models are the same in both states, between which some events happened. -/
structure SameHolders (s : Session kit) (opening : List Event) (s' : Session kit) : Prop where
  events : s'.events = s.events ++ opening
  subproblem : s'.subproblem = s.subproblem
  backends : s'.backends = s.backends
  held : s'.held = s.held
  serial : s.workshop.nextSerial ≤ s'.workshop.nextSerial

namespace SameHolders

variable {s s' : Session kit} {opening : List Event}

/-- Nothing happens between a state and itself. -/
theorem refl (s : Session kit) : s.SameHolders [] s :=
  ⟨(List.append_nil _).symm, rfl, rfl, rfl, Nat.le_refl _⟩

/-- Logging changes no holder. -/
theorem log (h : s.SameHolders opening s') (record : LogRecord) :
    s.SameHolders opening (s'.log record) :=
  ⟨(events_log s' record).trans h.events, h.subproblem, h.backends, h.held, h.serial⟩

/-- The own handle may be replaced by that of a held model, or of one that was just built. -/
theorem replaceHandle (h : s.SameHolders opening s') {placed : Option Nat}
    (hplaced : ∀ handle, placed = some handle →
      s.isHeld handle = true ∨ .built .curvature handle ∈ opening)
    (hbuilt : ∀ handle, .built .curvature handle ∈ opening → placed = some handle ∧
      s.workshop.nextSerial ≤ handle ∧ handle < s'.workshop.nextSerial)
    (hopening : ∀ handle, .dropped .curvature handle ∉ opening) :
    s.Parts opening s.subproblem [] (s'.replaceHandle placed) := by
  let t : Session kit := { s' with subproblem := placed }
  have hrest (handle : Nat) : t.isHeld handle = true ↔ placed = some handle ∨
      s.backends.bound? = some handle ∨ ∃ name, s.held.find? name = some handle := by
    rw [isHeld_iff_find?, ← h.backends, ← h.held]
  have hparts : s.Parts opening s.subproblem [] (t.letGo s.subproblem) := by
    refine Parts.of_letGo h.events ?_ ?_ ?_ ?_ h.serial hopening
    · intro handle hown
      exact isHeld_iff_find?.mpr (.inl hown)
    · intro handle hheld
      rcases isHeld_iff_find?.mp hheld with hown | hother
      · exact .inr hown
      · exact .inl ((hrest handle).mpr (.inr hother))
    · intro handle hheld
      rcases (hrest handle).mp hheld with hnew | hother
      · exact hplaced handle hnew
      · exact .inl (isHeld_iff_find?.mpr (.inr hother))
    · intro handle hmem
      obtain ⟨hnew, hle, hlt⟩ := hbuilt handle hmem
      exact ⟨hle, hlt, (hrest handle).mpr (.inl hnew)⟩
  rw [← h.subproblem] at hparts ⊢
  exact hparts

/-- A model may be put in place likewise. -/
theorem setSubproblem (h : s.SameHolders opening s') {handle : Nat}
    (hplaced : s.isHeld handle = true ∨ .built .curvature handle ∈ opening)
    (hbuilt : ∀ other, .built .curvature other ∈ opening → other = handle ∧
      s.workshop.nextSerial ≤ handle ∧ handle < s'.workshop.nextSerial)
    (hopening : ∀ handle, .dropped .curvature handle ∉ opening) :
    s.Parts opening s.subproblem [] (s'.setSubproblem handle) := by
  have hnew : ∀ other, some handle = some other →
      s.isHeld other = true ∨ .built .curvature other ∈ opening := by
    rintro other ⟨⟩
    exact hplaced
  have hnumber : ∀ other, .built .curvature other ∈ opening → some handle = some other ∧
      s.workshop.nextSerial ≤ other ∧ other < s'.workshop.nextSerial := by
    intro other hother
    obtain ⟨rfl, hle, hlt⟩ := hbuilt other hother
    exact ⟨rfl, hle, hlt⟩
  unfold Session.setSubproblem
  split
  · exact ((h.log .foreignSubproblem).log .replacingSubproblem).replaceHandle hnew hnumber hopening
  · exact (h.log .replacingSubproblem).replaceHandle hnew hnumber hopening

end SameHolders

/-- The kept handles may change by giving up one of them and taking handles of held models. -/
theorem withHeld_parts (s : Session kit) {held : NameMap Nat} {name : String} {lost : Option Nat}
    (hlost : ∀ handle, lost = some handle → s.held.find? name = some handle)
    (hkept : ∀ other handle, s.held.find? other = some handle →
      held.find? other = some handle ∨ lost = some handle)
    (htaken : ∀ other handle, held.find? other = some handle → s.isHeld handle = true) :
    s.Parts [] lost [] (letGo { s with held } lost) := by
  refine Parts.of_letGo (List.append_nil _).symm ?_ ?_ ?_ nofun (Nat.le_refl _)
    fun _ => List.not_mem_nil
  · intro handle hhandle
    exact isHeld_iff_find?.mpr (.inr (.inr ⟨name, hlost handle hhandle⟩))
  · intro handle hheld
    rcases isHeld_iff_find?.mp hheld with hown | hbound | ⟨other, hother⟩
    · exact .inl (isHeld_iff_find?.mpr (.inl hown))
    · exact .inl (isHeld_iff_find?.mpr (.inr (.inl hbound)))
    · refine (hkept other handle hother).imp_left fun hfind => ?_
      exact isHeld_iff_find?.mpr (.inr (.inr ⟨other, hfind⟩))
  · intro handle hheld
    rcases isHeld_iff_find?.mp hheld with hown | hbound | ⟨other, hother⟩
    · exact .inl (isHeld_iff_find?.mpr (.inl hown))
    · exact .inl (isHeld_iff_find?.mpr (.inr (.inl hbound)))
    · exact .inl (htaken other handle hother)

/-- Keeping a handle under a name gives up the handle of that name before. -/
theorem hold_parts (s : Session kit) (name : String) :
    ∃ lost, s.Parts [] lost [] (s.hold name).2 := by
  unfold hold
  split
  next => exact ⟨none, .of_same rfl rfl fun _ => rfl⟩
  next own hown =>
    refine ⟨s.held.find? name, s.withHeld_parts (fun _ => id) ?_ ?_⟩
    · intro other handle hother
      by_cases hname : other = name
      · exact .inr (hname ▸ hother)
      · exact .inl ((NameMap.find?_insert_of_ne _ _ hname).trans hother)
    · intro other handle hother
      by_cases hname : other = name
      · rw [hname, NameMap.find?_insert_self] at hother
        exact isHeld_iff_find?.mpr (.inl (hown.trans hother))
      · rw [NameMap.find?_insert_of_ne _ _ hname] at hother
        exact isHeld_iff_find?.mpr (.inr (.inr ⟨other, hother⟩))

/-- Letting go of a kept handle gives it up. -/
theorem release_parts (s : Session kit) (name : String) :
    ∃ lost, s.Parts [] lost [] (s.release name).2 := by
  unfold release
  split
  next => exact ⟨none, .of_same rfl rfl fun _ => rfl⟩
  next own hown =>
    refine ⟨some own, s.withHeld_parts (fun _ hlost => hown.trans hlost) ?_ ?_⟩
    · intro other handle hother
      by_cases hname : other = name
      · exact .inr (hown.symm.trans (hname ▸ hother))
      · exact .inl (NameMap.find?_erase_eq_some_iff.mpr ⟨hname, hother⟩)
    · intro other handle hother
      obtain ⟨-, hfind⟩ := NameMap.find?_erase_eq_some_iff.mp hother
      exact isHeld_iff_find?.mpr (.inr (.inr ⟨other, hfind⟩))

/-- Changing a model gives up nothing. -/
theorem changeThrough_parts (s : Session kit) (handle : Option Nat) (change : ModelChange R) :
    s.Parts [] none [] (s.changeThrough handle change).2 := by
  unfold changeThrough
  split
  · exact .of_same rfl rfl fun _ => rfl
  · split
    · exact .of_same rfl rfl fun _ => rfl
    · exact .of_same rfl rfl fun _ => rfl

/-- Putting the model of a kept handle in place gives up the own one. -/
theorem setHeldSubproblem_parts (s : Session kit) {name : String} {handle : Nat}
    (h : s.held.find? name = some handle) :
    s.Parts [] s.subproblem [] (s.setHeldSubproblem name) := by
  have hheld : s.isHeld handle = true := isHeld_iff_find?.mpr (.inr (.inr ⟨name, h⟩))
  unfold setHeldSubproblem
  rw [h]
  exact (SameHolders.refl s).setSubproblem (.inl hheld) nofun fun _ => List.not_mem_nil

/-- Giving up the model gives up the own handle. -/
theorem clearSubproblem_parts (s : Session kit) :
    s.Parts [] s.subproblem [] s.clearSubproblem :=
  ((SameHolders.refl s).log .clearingSubproblem).replaceHandle nofun nofun
    fun _ => List.not_mem_nil

/-- Replacing the own handle leaves those of callers. -/
theorem held_replaceHandle (s : Session kit) (handle : Option Nat) :
    (s.replaceHandle handle).held = s.held := by
  unfold replaceHandle
  rw [letGo_eq]

/-- Putting a model in place leaves the handles of callers. -/
theorem held_setSubproblem (s : Session kit) (handle : Nat) :
    (s.setSubproblem handle).held = s.held := by
  unfold setSubproblem
  split
  · exact held_replaceHandle _ _
  · exact held_replaceHandle _ _

/-- A handle that is put in place is of a model that was just built or that a caller holds. -/
theorem placed_cases {s : Session kit} {operation : Operation kit} {handle : Nat}
    (h : (Step.mk s operation).placed? = some (some handle)) :
    handle = s.workshop.nextSerial ∨ ∃ name, s.held.find? name = some handle := by
  cases operation with
  | inject kind size problem => exact .inl (Option.some.inj (Option.some.inj h)).symm
  | injectHeld name =>
    obtain ⟨other, hfind, heq⟩ := Option.map_eq_some_iff.mp h
    exact .inr ⟨name, hfind.trans heq⟩
  | setOptions | changeModel | changeHeld | clear | hold | release | optimize => cases h

/-- Putting a handle in place runs no strategy. -/
theorem ne_optimize_of_placed {s : Session kit} {operation : Operation kit} {placed : Option Nat}
    (h : (Step.mk s operation).placed? = some placed) (condition : kit.Condition) :
    operation ≠ .optimize condition := by
  rintro rfl
  cases h

variable [Scalar R]

/-- Building a model for a problem and putting it in place gives up the own handle. -/
theorem setBuiltSubproblem_parts (s : Session kit) (source : ProblemObject R)
    (kind : QuasiNewtonKind) (size : Nat) :
    s.Parts [.built .curvature s.workshop.nextSerial] s.subproblem []
      (setSubproblem { s with workshop := (s.workshop.buildModel source kind size).2 }
        s.workshop.nextSerial) := by
  let built : Session kit := { s with workshop := (s.workshop.buildModel source kind size).2 }
  have hholders : s.SameHolders [.built .curvature s.workshop.nextSerial] built :=
    ⟨Journal.events_append _ _, rfl, rfl, rfl, Nat.le_succ _⟩
  refine hholders.setSubproblem (.inr (List.mem_singleton_self _)) ?_ (by simp)
  intro other hother
  obtain ⟨-, rfl⟩ := Event.built.inj (List.mem_singleton.mp hother)
  exact ⟨rfl, Nat.le_refl _, Nat.lt_succ_self _⟩

/-- The problem may be that of a caller or the one of the coordinator. -/
theorem injectSubproblem_parts (s : Session kit) (kind : QuasiNewtonKind) (size : Nat)
    (problem : Option (Problem R)) :
    s.Parts [.built .curvature s.workshop.nextSerial] s.subproblem []
      (s.injectSubproblem kind size problem) :=
  s.setBuiltSubproblem_parts _ kind size

/-- Putting a handle in place of the own one gives that up, and builds at most a model. -/
theorem placed_parts {s : Session kit} {operation : Operation kit} {placed : Option Nat}
    (h : (Step.mk s operation).placed? = some placed) :
    ∃ opening, s.Parts opening s.subproblem [] (s.perform operation).1 := by
  cases operation with
  | inject kind size problem => exact ⟨_, s.injectSubproblem_parts kind size problem⟩
  | injectHeld name =>
    obtain ⟨handle, hfind, -⟩ := Option.map_eq_some_iff.mp h
    exact ⟨[], s.setHeldSubproblem_parts hfind⟩
  | clear => exact ⟨[], s.clearSubproblem_parts⟩
  | setOptions | changeModel | changeHeld | hold | release | optimize => cases h

/-- Putting a handle in place leaves the other holders as they are. -/
theorem holders_of_placed {s : Session kit} {operation : Operation kit} {placed : Option Nat}
    (h : (Step.mk s operation).placed? = some placed) :
    (s.perform operation).1.subproblem = placed ∧
      (s.perform operation).1.backends = s.backends ∧ (s.perform operation).1.held = s.held := by
  have hbackends := (s.perform_aside (ne_optimize_of_placed h)).backends
  cases operation with
  | inject kind size problem =>
    exact ⟨(s.injectSubproblem_eq kind size problem).1.trans (Option.some.inj h), hbackends,
      held_setSubproblem _ _⟩
  | injectHeld name =>
    obtain ⟨handle, hfind, rfl⟩ := Option.map_eq_some_iff.mp h
    have hset : s.setHeldSubproblem name = s.setSubproblem handle := by
      rw [setHeldSubproblem, hfind]
    refine ⟨?_, hbackends, ?_⟩
    · exact (congrArg subproblem hset).trans (s.setSubproblem_eq handle).1
    · exact (congrArg held hset).trans (s.held_setSubproblem handle)
  | clear =>
    exact ⟨s.clearSubproblem_eq.1.trans (Option.some.inj h), hbackends, held_replaceHandle _ _⟩
  | setOptions | changeModel | changeHeld | hold | release | optimize => cases h

/-- An operation that runs no strategy gives up at most one handle. -/
theorem aside_parts (s : Session kit) {operation : Operation kit}
    (h : ∀ condition, operation ≠ .optimize condition) :
    ∃ opening lost, s.Parts opening lost [] (s.perform operation).1 := by
  cases operation with
  | setOptions options => exact ⟨[], none, .of_same rfl rfl fun _ => rfl⟩
  | changeModel change => exact ⟨[], none, s.changeThrough_parts s.subproblem change⟩
  | changeHeld name change => exact ⟨[], none, s.changeThrough_parts (s.held.find? name) change⟩
  | inject kind size problem => exact ⟨_, _, s.injectSubproblem_parts kind size problem⟩
  | injectHeld name =>
    cases hfind : s.held.find? name with
    | none =>
      have hsame : (s.perform (.injectHeld name)).1 = s := by
        show s.setHeldSubproblem name = s
        rw [setHeldSubproblem, hfind]
      rw [hsame]
      exact ⟨[], none, .of_same rfl rfl fun _ => rfl⟩
    | some handle => exact ⟨[], _, s.setHeldSubproblem_parts hfind⟩
  | clear => exact ⟨[], _, s.clearSubproblem_parts⟩
  | hold name =>
    obtain ⟨lost, hparts⟩ := s.hold_parts name
    exact ⟨[], lost, hparts⟩
  | release name =>
    obtain ⟨lost, hparts⟩ := s.release_parts name
    exact ⟨[], lost, hparts⟩
  | optimize condition => exact absurd rfl (h condition)

end Session

end StrategyCoordinator
