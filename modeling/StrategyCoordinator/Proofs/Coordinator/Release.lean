import StrategyCoordinator.Proofs.Coordinator.Discarding
import StrategyCoordinator.Proofs.Coordinator.Wiring

/-!
# When approximations are dropped

A model is held by the coordinator, by the live trust-region backends and by callers. Its curvature
approximation lives exactly as long as somebody holds the model: it is dropped once, in the step in
which the last holder lets go, and not before. What carries this through a history is that the
approximations that live, according to the events so far, are those of the models that are held.
-/

namespace StrategyCoordinator

/-- An entry that never stands after itself occurs once at most. -/
theorem count_le_one_of_not_mem {α : Type} [DecidableEq α] {entry : α} {trace : List α}
    (h : ∀ past, past ++ [entry] <+: trace → entry ∉ past) : trace.count entry ≤ 1 := by
  induction trace using List.reverseRecOn with
  | nil => simp
  | append_singleton rest last ih =>
    have hrest := ih fun past hpast => h past (hpast.trans (List.prefix_append rest [last]))
    by_cases hlast : last = entry
    · have hnew : entry ∉ rest := h rest (hlast ▸ List.prefix_refl _)
      simp [List.count_append, List.count_eq_zero_of_not_mem hnew, hlast]
    · simpa [List.count_append, hlast] using hrest

variable {R : Type} {kit : SolverKit R}

namespace Session

/-- A model is held by the coordinator, by a live trust-region backend or its interior-point
backend, together with the handle that they are bound to, or by a caller. -/
inductive HeldBy (s : Session kit) (handle : Nat) : Prop
  | own (h : s.subproblem = some handle)
  | backends {tr : LiveTrustRegion kit} {ip : LiveInteriorPoint kit} {bound : Nat}
      (h : s.backends = .trustRegion tr ip bound)
      (hhandle : tr.subproblem = handle ∨ ip.target = .subproblem handle ∨ bound = handle)
  | caller (name : String) (h : s.held.find? name = some handle)

/-- Backends that fit each other hold the model that they are bound to and no other. -/
theorem heldBy_iff {s : Session kit} (hwired : s.backends.assembly.Wired) {handle : Nat} :
    s.HeldBy handle ↔ s.isHeld handle = true := by
  rw [isHeld_iff_find?]
  constructor
  · intro hheld
    cases hheld with
    | own h => exact .inl h
    | caller name h => exact .inr (.inr ⟨name, h⟩)
    | @backends tr ip bound h hhandle =>
      rw [h] at hwired ⊢
      obtain ⟨hsubproblem, htarget⟩ : tr.subproblem = bound ∧ ip.target = .subproblem bound :=
        hwired
      rcases hhandle with rfl | hhandle | rfl
      · exact .inr (.inl (congrArg some hsubproblem.symm))
      · rw [htarget] at hhandle
        exact .inr (.inl (congrArg some (Target.subproblem.inj hhandle)))
      · exact .inr (.inl rfl)
  · rintro (hown | hbound | ⟨name, hcaller⟩)
    · exact .own hown
    · cases hbackends : s.backends with
      | trustRegion tr ip bound =>
        rw [hbackends] at hbound
        exact .backends hbackends (.inr (.inr (Option.some.inj hbound)))
      | uninitialized | interiorPoint | asymptotes =>
        rw [hbackends] at hbound
        cases hbound
    · exact .caller name hcaller

/-- Letting go of a kept handle leaves the other holders. -/
theorem release_holders (s : Session kit) (name : String) :
    (s.release name).2.subproblem = s.subproblem ∧ (s.release name).2.backends = s.backends ∧
      ∀ other handle, (s.release name).2.held.find? other = some handle ↔
        other ≠ name ∧ s.held.find? other = some handle := by
  refine ⟨(s.release_keeps name).1, (s.release_aside name).backends, fun other handle => ?_⟩
  unfold release
  split
  next hnone =>
    refine ⟨fun hfind => ⟨?_, hfind⟩, And.right⟩
    rintro rfl
    rw [hnone] at hfind
    cases hfind
  next kept hkept =>
    have hheld : (letGo { s with held := s.held.erase name } (some kept)).held =
        s.held.erase name := by
      rw [letGo_eq]
    show (letGo _ _).held.find? other = some handle ↔ _
    rw [hheld]
    exact NameMap.find?_erase_eq_some_iff

/-- Of a dropped coordinator only the handles of callers are left. -/
theorem dispose_holders (s : Session kit) :
    s.dispose.subproblem = none ∧ s.dispose.backends = .uninitialized ∧
      s.dispose.held = s.held := by
  obtain ⟨-, hbackends, hheld, -⟩ := s.dropBackends_keeps
  unfold dispose
  rw [letGo_eq]
  exact ⟨rfl, hbackends, hheld⟩

/-- The events so far account for the models that are held. -/
structure Accounted (s : Session kit) : Prop where
  wired : s.backends.assembly.Wired
  /-- Approximations have been built under numbers that were given before. -/
  fresh : ∀ handle, .built .curvature handle ∈ s.events → handle < s.workshop.nextSerial
  /-- The approximations that live are those of the models that are held. -/
  lives : ∀ handle, Lives s.events .curvature handle ↔ s.isHeld handle = true
  /-- An approximation is dropped only while it lives. -/
  alive : ∀ past handle, past ++ [.dropped .curvature handle] <+: s.events →
    Lives past .curvature handle

namespace Accounted

variable {s s' : Session kit}

/-- At the start there are no models. -/
theorem new (problem : Problem R) (options : OptionStore) :
    (Session.new kit problem options).Accounted where
  wired := trivial
  fresh := nofun
  lives handle := by
    simp [Lives, events, Session.new, Workshop.new, Journal.events, isHeld, NameMap.empty,
      Backends.bound?]
  alive past handle hpast := by
    have hnil : past ++ [.dropped .curvature handle] <+: [] := hpast
    simp at hnil

/-- A held model was given its number before. -/
theorem lt_nextSerial (h : s.Accounted) {handle : Nat} (hheld : s.isHeld handle = true) :
    handle < s.workshop.nextSerial :=
  h.fresh handle ((h.lives handle).mpr hheld).1

/-- Giving up a handle keeps the account. -/
theorem parts (h : s.Accounted) {opening ending : List Event} {lost : Option Nat}
    (hparts : s.Parts opening lost ending s') (hwired : s'.backends.assembly.Wired) :
    s'.Accounted := by
  have hevents := hparts.events
  have hbuilt (handle : Nat) : .built .curvature handle ∈ s'.events ↔
      .built .curvature handle ∈ s.events ∨ .built .curvature handle ∈ opening := by
    have hpartings := s'.not_built_of_partings lost .curvature handle
    rw [hevents, List.mem_append, List.mem_append, List.mem_append]
    simp only [hpartings, (hparts.after handle).1, or_false]
  have hdropped (handle : Nat) : .dropped .curvature handle ∈ s'.events ↔
      .dropped .curvature handle ∈ s.events ∨
        s.isHeld handle = true ∧ s'.isHeld handle = false := by
    rw [hevents, List.mem_append, hparts.dropped_iff]
  refine ⟨hwired, fun handle hmem => ?_, fun handle => ?_, fun past handle hpast => ?_⟩
  · rcases (hbuilt handle).mp hmem with hold | hnew
    · exact Nat.lt_of_lt_of_le (h.fresh handle hold) hparts.serial
    · exact (hparts.built handle hnew).2.1
  · rw [Lives, hbuilt, hdropped]
    cases hheld : s.isHeld handle with
    | true =>
      obtain ⟨hold, halive⟩ := (h.lives handle).mpr hheld
      simp [hold, halive]
    | false =>
      have hgone : ¬Lives s.events .curvature handle := by simp [h.lives, hheld]
      constructor
      · rintro ⟨hold | hnew, hnot⟩
        · exact absurd ⟨hold, fun hdrop => hnot (.inl hdrop)⟩ hgone
        · exact (hparts.built handle hnew).2.2
      · intro hheld'
        rcases hparts.taken handle hheld' with hbefore | hnew
        · rw [hheld] at hbefore
          cases hbefore
        · refine ⟨.inr hnew, ?_⟩
          rintro (hdrop | ⟨⟨⟩, -⟩)
          -- What was dropped before was built before, under a number that is too small.
          obtain ⟨past, future, hsplit⟩ := List.append_of_mem hdrop
          have hpast : past ++ [.dropped .curvature handle] <+: s.events :=
            ⟨future, (List.append_cons ..).symm.trans hsplit.symm⟩
          have hold := (h.alive past handle hpast).1
          have hlt := h.fresh handle ((List.prefix_append ..).trans hpast |>.subset hold)
          exact absurd hlt (Nat.not_lt.mpr (hparts.built handle hnew).1)
  · rw [hevents] at hpast
    rcases List.prefix_or_prefix_of_prefix (List.prefix_append s.events _) hpast with hlong | hshort
    · rcases List.prefix_concat_iff.mp hlong with heq | hlong
      · exact h.alive past handle (heq ▸ List.prefix_refl _)
      · obtain ⟨middle, rfl⟩ := hlong
        rw [List.append_assoc, List.prefix_append_right_inj] at hpast
        obtain ⟨rfl, hlost⟩ := hparts.eq_opening hpast
        obtain ⟨hold, halive⟩ := (h.lives handle).mpr (hparts.held handle hlost)
        exact ⟨List.mem_append_left _ hold, by simp [halive, hparts.before handle]⟩
    · exact h.alive past handle hshort

/-- Dropping the coordinator keeps the account. -/
theorem dispose (h : s.Accounted) : s.dispose.Accounted := by
  have hbackends : s.dropBackends.backends = .uninitialized := s.dropBackends_keeps.2.1
  have hdropped : s.dropBackends.Accounted := by
    refine h.parts s.dropBackends_parts ?_
    rw [hbackends]
    exact trivial
  refine hdropped.parts s.dispose_parts ?_
  have hdisposed : s.dispose.backends = s.dropBackends.backends := by
    unfold Session.dispose
    rw [letGo_eq]
  rw [hdisposed, hbackends]
  exact trivial

/-- Once nobody holds a model any more, every approximation that was built has been dropped once. -/
theorem count_dropped (h : s.Accounted) (hnone : ∀ handle, s.isHeld handle = false) {handle : Nat}
    (hbuilt : .built .curvature handle ∈ s.events) :
    s.events.count (.dropped .curvature handle) = 1 := by
  have hgone : ¬Lives s.events .curvature handle := by
    rw [h.lives, hnone]
    exact Bool.false_ne_true
  have hdropped : .dropped .curvature handle ∈ s.events := by
    by_contra hnot
    exact hgone ⟨hbuilt, hnot⟩
  have hmost := count_le_one_of_not_mem fun past hpast => (h.alive past handle hpast).2
  have hleast := List.count_pos_iff.mpr hdropped
  omega

/-- Dropping the coordinator drops the approximations whose last holder it is, after all of the live
backends. -/
theorem events_dispose (h : s.Accounted) :
    ∃ events, s.dispose.events = s.events ++ events ∧
      (∀ handle, .dropped .curvature handle ∈ events ↔
        s.HeldBy handle ∧ ¬s.dispose.HeldBy handle) ∧
      ∀ past handle, past ++ [.dropped .curvature handle] <+: events →
        ∀ backend ∈ s.backends.roster, .dropped backend.1 backend.2 ∈ past := by
  have hfirst := s.dropBackends_parts
  have hsecond := s.dispose_parts
  have hevents := hsecond.events
  rw [hfirst.events, List.append_assoc s.events] at hevents
  refine ⟨_, hevents, fun handle => ?_, fun past handle hpast backend hmem => ?_⟩
  · have hdropped (hheld : s.dropBackends.isHeld handle = true) : s.isHeld handle = true :=
      (hfirst.taken handle hheld).resolve_right (by simp)
    have hdisposed (hheld : s.dispose.isHeld handle = true) :
        s.dropBackends.isHeld handle = true :=
      (hsecond.taken handle hheld).resolve_right List.not_mem_nil
    rw [heldBy_iff h.wired, heldBy_iff h.dispose.wired, List.mem_append, hfirst.dropped_iff,
      hsecond.dropped_iff, ← Bool.not_eq_true, ← Bool.not_eq_true]
    constructor
    · rintro (⟨hheld, hleft⟩ | ⟨hheld, hleft⟩)
      · exact ⟨hheld, fun hkept => hleft (hdisposed hkept)⟩
      · exact ⟨hdropped hheld, hleft⟩
    · rintro ⟨hheld, hleft⟩
      by_cases hmiddle : s.dropBackends.isHeld handle = true
      · exact .inr ⟨hmiddle, hleft⟩
      · exact .inl ⟨hheld, hmiddle⟩
  · rw [List.append_assoc] at hpast
    refine (isPrefix_of_not_mem hpast (hfirst.before handle)).subset ?_
    exact List.mem_map_of_mem (f := fun backend => Event.dropped backend.1 backend.2) hmem

variable [Scalar R]

/-- Backends that fit each other fit each other after every operation. -/
theorem wired_perform {s : Session kit} (h : s.backends.assembly.Wired)
    (operation : Operation kit) : (s.perform operation).1.backends.assembly.Wired := by
  cases (Step.mk s operation).kind with
  | aside haside =>
    rw [(s.perform_aside haside).backends]
    exact h
  | @refused _ e condition hresolve =>
    have hafter : (s.perform (.optimize condition)).1 = s.log (.refused e) :=
      Step.after_of_error hresolve condition
    rw [hafter]
    exact h
  | @carriedOut _ resolved request condition hresolve =>
    have hassembly : (s.perform (.optimize condition)).1.backends.assembly =
        resolved.alignedAssembly request := (optimize_of_ok hresolve condition).assembly
    rw [hassembly, alignedAssembly]
    split
    · rw [(resolve_aside hresolve).backends]
      exact h
    · exact request.assembly_wired _

/-- Every operation keeps the account. -/
theorem perform (h : s.Accounted) (operation : Operation kit) :
    (s.perform operation).1.Accounted := by
  obtain ⟨opening, lost, ending, hparts⟩ := s.perform_parts operation
  exact h.parts hparts (wired_perform h.wired operation)

/-- Every history keeps the account. -/
theorem performAll (h : s.Accounted) (operations : List (Operation kit)) :
    (s.performAll operations).Accounted :=
  performAll_invariant (fun _ operation hs => hs.perform operation) h operations

end Accounted

end Session

variable [Scalar R]

/-- What a step does to the approximations of models. -/
structure Step.Releases (step : Step kit) : Prop where
  /-- An approximation is dropped in the step in which the last holder of its model lets go. -/
  dropped : ∀ handle, .dropped .curvature handle ∈ step.events ↔
    step.before.HeldBy handle ∧ ¬step.after.HeldBy handle
  /-- Replacing or giving up the own model drops nothing while live backends are bound to it. -/
  bound : ∀ placed handle, step.placed? = some placed → step.before.subproblem = some handle →
    step.before.backends.bound? = some handle → ∀ role serial, .dropped role serial ∉ step.events
  /-- If nobody else holds it, its approximation is dropped at once. -/
  unshared : ∀ placed handle, step.placed? = some placed → step.before.subproblem = some handle →
    step.before.backends.bound? ≠ some handle →
    (∀ name, step.before.held.find? name ≠ some handle) →
      ∃ opening, step.events = opening ++ [.dropped .curvature handle] ∧
        ∀ role serial, .dropped role serial ∉ opening
  /-- A call drops at most the approximation that the live backends were bound to, after all of them
  and before it builds others. -/
  discarded : ∀ condition past handle, step.operation = .optimize condition →
    past ++ [.dropped .curvature handle] <+: step.events →
      step.before.backends.bound? = some handle ∧
      (∀ backend ∈ step.before.backends.roster, .dropped backend.1 backend.2 ∈ past) ∧
      ∀ role serial, role.IsBackend → .built role serial ∉ past

namespace Session

/-- The events of an operation that gives up a handle. -/
theorem Parts.events_step {step : Step kit} {opening ending : List Event} {lost : Option Nat}
    (h : step.before.Parts opening lost ending step.after) :
    step.events = opening ++ ((step.after.partings lost).events ++ ending) :=
  List.append_cancel_left (step.events_after.symm.trans h.events)

end Session

namespace Step

open Session

/-- Only approximations are dropped by putting a model in place. -/
theorem eq_curvature_of_placed {step : Step kit} {placed : Option Nat}
    (h : step.placed? = some placed) {role : Role} {serial : Nat}
    (hmem : .dropped role serial ∈ step.events) : role = .curvature := by
  obtain ⟨other, ⟨⟨⟩⟩ | heq⟩ := (step.modelEvents (ne_optimize_of_placed h)).of_mem _ hmem
  exact (Event.dropped.inj heq).1

/-- Each step drops the approximations that it has to drop, when it has to. -/
theorem releases {step : Step kit} (h : step.before.Accounted) : step.Releases where
  dropped handle := by
    obtain ⟨opening, lost, ending, hparts⟩ :
        ∃ opening lost ending, step.before.Parts opening lost ending step.after :=
      step.before.perform_parts step.operation
    have hwired : step.after.backends.assembly.Wired :=
      Accounted.wired_perform h.wired step.operation
    rw [Parts.events_step hparts, hparts.dropped_iff, heldBy_iff h.wired, heldBy_iff hwired,
      Bool.not_eq_true]
  bound placed handle hplaced hown hbound role serial hmem := by
    obtain rfl : role = .curvature := eq_curvature_of_placed hplaced hmem
    obtain ⟨-, hbackends, -⟩ := holders_of_placed hplaced
    obtain ⟨opening, hparts⟩ := placed_parts hplaced
    rw [Parts.events_step hparts] at hmem
    obtain ⟨hheld, hleft⟩ := hparts.dropped_iff.mp hmem
    have hlost : step.before.subproblem = some serial := by
      refine (hparts.kept serial hheld).resolve_left ?_
      rw [hleft]
      exact Bool.false_ne_true
    obtain rfl : handle = serial := Option.some.inj (hown.symm.trans hlost)
    have hkept : (step.before.perform step.operation).1.isHeld handle = true := by
      rw [isHeld_iff_find?, hbackends]
      exact .inr (.inl hbound)
    rw [hleft] at hkept
    cases hkept
  unshared placed handle hplaced hown hbound hcaller := by
    obtain ⟨hafter, hbackends, hnames⟩ := holders_of_placed hplaced
    obtain ⟨opening, hparts⟩ := placed_parts hplaced
    have hheld : step.before.isHeld handle = true := isHeld_iff_find?.mpr (.inl hown)
    have hleft : step.after.isHeld handle = false := by
      rw [← Bool.not_eq_true]
      intro hkept
      rcases isHeld_iff_find?.mp hkept with hmine | hlive | ⟨name, hother⟩
      · have hsame : placed = some handle := hafter.symm.trans hmine
        rcases placed_cases (hsame ▸ hplaced) with hnew | ⟨name, hfind⟩
        · exact absurd (h.lt_nextSerial hheld) (hnew ▸ Nat.lt_irrefl _)
        · exact hcaller name hfind
      · exact hbound ((congrArg Backends.bound? hbackends).symm.trans hlive)
      · exact hcaller name ((congrArg (NameMap.find? · name) hnames).symm.trans hother)
    have hevents := Parts.events_step hparts
    rw [hown, events_partings_of_not_isHeld hleft] at hevents
    refine ⟨opening, hevents, fun role serial hmem => ?_⟩
    have hdrop : .dropped role serial ∈ step.events := hevents ▸ List.mem_append_left _ hmem
    obtain rfl : role = .curvature := eq_curvature_of_placed hplaced hdrop
    exact hparts.before serial hmem
  discarded condition past handle hoperation hpast := by
    obtain ⟨s, operation⟩ := step
    obtain rfl : operation = .optimize condition := hoperation
    cases (Step.mk s (.optimize condition)).kind with
    | aside haside => exact absurd rfl (haside condition)
    | refused _ hresolve =>
      rw [events_of_log (after_of_error hresolve condition)] at hpast
      exact absurd (hpast.subset List.mem_concat_self) List.not_mem_nil
    | @carriedOut _ resolved request _ hresolve =>
      cases hserves : resolved.backends.serves request with
      | true =>
        obtain ⟨ending, hparts⟩ := optimize_parts_of_serves hresolve hserves condition
        rw [Parts.events_step hparts] at hpast
        obtain ⟨-, ⟨⟩⟩ := hparts.eq_opening hpast
      | false =>
        obtain ⟨ending, hparts⟩ := optimize_parts_of_not_serves hresolve hserves condition
        rw [Parts.events_step hparts] at hpast
        obtain ⟨rfl, hlost⟩ := hparts.eq_opening hpast
        refine ⟨hlost, fun backend hbackend => ?_, fun role serial hrole hmem => ?_⟩
        · refine List.mem_append_right _ ?_
          exact List.mem_map_of_mem (f := fun backend => Event.dropped backend.1 backend.2) hbackend
        · rcases List.mem_append.mp hmem with hmem | hmem
          · exact (events_resolve hresolve).2.not_built hrole serial hmem
          · simp at hmem

end Step

namespace Session

/-- Letting go of handles that are kept under some names leaves the other holders. -/
theorem releases_holders (s : Session kit) (names : List String) :
    (s.performAll (names.map .release)).subproblem = s.subproblem ∧
      (s.performAll (names.map .release)).backends = s.backends ∧
      ∀ other handle, (s.performAll (names.map .release)).held.find? other = some handle ↔
        other ∉ names ∧ s.held.find? other = some handle := by
  induction names generalizing s with
  | nil => exact ⟨rfl, rfl, fun other handle => (and_iff_right List.not_mem_nil).symm⟩
  | cons name names ih =>
    obtain ⟨hown, hbackends, hheld⟩ := s.release_holders name
    obtain ⟨hown', hbackends', hheld'⟩ := ih (s.release name).2
    refine ⟨hown'.trans hown, hbackends'.trans hbackends, fun other handle => ?_⟩
    refine (hheld' other handle).trans ?_
    rw [hheld, List.mem_cons, not_or, ← and_assoc, and_comm (a := other ∉ names)]

/-- Letting go of all kept handles is letting go of them one after another. -/
theorem releaseAll_eq (s : Session kit) :
    s.releaseAll = s.performAll ((s.held.entries.map Prod.fst).map .release) := by
  rw [releaseAll, performAll, List.foldl_map, List.foldl_map]
  rfl

/-- After the drop of the coordinator a model is held by the callers that have not let go of it. -/
theorem isHeld_released (s : Session kit) (names : List String) (handle : Nat) :
    (s.dispose.performAll (names.map .release)).isHeld handle = true ↔
      ∃ name, (s.dispose.performAll (names.map .release)).held.find? name = some handle := by
  obtain ⟨hown, hbackends, -⟩ := s.dispose_holders
  obtain ⟨hown', hbackends', -⟩ := s.dispose.releases_holders names
  rw [isHeld_iff_find?, hown', hbackends', hown, hbackends]
  simp [Backends.bound?]

/-- If they have let go of all their handles, nobody holds a model. -/
theorem not_isHeld_released (s : Session kit) {names : List String}
    (h : ∀ name handle, s.held.find? name = some handle → name ∈ names) (handle : Nat) :
    (s.dispose.performAll (names.map .release)).isHeld handle = false := by
  rw [← Bool.not_eq_true, isHeld_released]
  rintro ⟨name, hfind⟩
  obtain ⟨-, -, hheld⟩ := s.dispose.releases_holders names
  obtain ⟨hnot, hkept⟩ := (hheld name handle).mp hfind
  rw [s.dispose_holders.2.2] at hkept
  exact hnot (h name handle hkept)

/-- However a history goes, and in whatever order callers let go of the handles that they kept once
the coordinator is dropped: an approximation is dropped only while it lives, so once at most, and it
lives exactly as long as somebody holds its model. Each step drops what the last holder lets go of
in it. Dropping the coordinator does so after all live backends were dropped. When callers have let
go of all their handles, one by one or all together, every approximation that was built has been
dropped once. -/
theorem approximations_dropped_once (problem : Problem R) (options : OptionStore)
    (operations : List (Operation kit)) (names : List String) :
    let start := new kit problem options
    let s := start.performAll operations
    let releases : List (Operation kit) := names.map .release
    let final := s.dispose.performAll releases
    (∀ past handle, past ++ [.dropped .curvature handle] <+: final.events →
      Lives past .curvature handle) ∧
    (∀ handle, (Lives s.events .curvature handle ↔ s.HeldBy handle) ∧
      (Lives final.events .curvature handle ↔ ∃ name, final.held.find? name = some handle)) ∧
    (∀ step ∈ start.steps operations ++ s.dispose.steps releases, step.Releases) ∧
    (∃ events, s.dispose.events = s.events ++ events ∧
      (∀ handle, .dropped .curvature handle ∈ events ↔
        s.HeldBy handle ∧ ¬s.dispose.HeldBy handle) ∧
      ∀ past handle, past ++ [.dropped .curvature handle] <+: events →
        ∀ backend ∈ s.backends.roster, .dropped backend.1 backend.2 ∈ past) ∧
    ((∀ name handle, s.held.find? name = some handle → name ∈ names) →
      ∀ handle, .built .curvature handle ∈ final.events →
        final.events.count (.dropped .curvature handle) = 1) ∧
    (∀ handle, .built .curvature handle ∈ s.dispose.releaseAll.events →
      s.dispose.releaseAll.events.count (.dropped .curvature handle) = 1) := by
  intro start s releases final
  have hstart : start.Accounted := .new problem options
  have hs : s.Accounted := hstart.performAll operations
  have hfinal : final.Accounted := hs.dispose.performAll releases
  refine ⟨hfinal.alive, fun handle => ⟨?_, ?_⟩, fun step hstep => ?_, hs.events_dispose,
    fun hnames handle => hfinal.count_dropped (s.not_isHeld_released hnames), fun handle => ?_⟩
  · rw [hs.lives, heldBy_iff hs.wired]
  · rw [hfinal.lives, isHeld_released]
  · rcases List.mem_append.mp hstep with hstep | hstep
    · obtain ⟨done, -, -, hbefore⟩ := exists_of_mem_steps hstep
      exact step.releases (hbefore ▸ hstart.performAll done)
    · obtain ⟨done, -, -, hbefore⟩ := exists_of_mem_steps hstep
      exact step.releases (hbefore ▸ hs.dispose.performAll done)
  · rw [releaseAll_eq]
    refine (hs.dispose.performAll _).count_dropped (s.not_isHeld_released ?_)
    intro name handle hfind
    rw [s.dispose_holders.2.2]
    exact List.mem_map_of_mem (f := Prod.fst) (NameMap.mem_of_find? hfind)

/-- With the standard solvers and the default options, a caller keeps a handle of the first model
and gives it up for the coordinator. That drops nothing. The next call replaces the backends that
were bound to it and builds another model. After the caller has let go too, each of the two
approximations has been dropped once. -/
theorem standard_approximations_dropped :
    let kit := ElementarySolvers.standard.kit
    let problem : Problem Binary64 := Problem.ofBounds [] 0
    let start := new kit problem (OptionStore.empty.addDefaults kit.registerOptions).1
    let held := start.performAll [.optimize none, .hold "a"]
    let s := start.performAll [.optimize none, .hold "a", .clear, .optimize none]
    let final := s.dispose.performAll [.release "a"]
    (∀ role serial, .dropped role serial ∉ (Step.mk held .clear).events) ∧
      s.HeldBy 0 ∧ s.HeldBy 3 ∧
      final.events.count (.dropped .curvature 0) = 1 ∧
      final.events.count (.dropped .curvature 3) = 1 := by
  intro kit problem start held s final
  obtain ⟨-, hlives, hsteps, -, hcount, -⟩ := approximations_dropped_once problem start.options
    ([.optimize none, .hold "a", .clear, .optimize none] : List (Operation kit)) ["a"]
  have hnames : ∀ name handle, s.held.find? name = some handle → name ∈ ["a"] := by
    intro name handle hfind
    have hentries : s.held.entries = [("a", 0)] := by decide +kernel
    have hmem := NameMap.mem_of_find? hfind
    rw [hentries, List.mem_singleton] at hmem
    exact List.mem_singleton.mpr (congrArg Prod.fst hmem)
  have hclear : Step.mk held .clear ∈
      start.steps [.optimize none, .hold "a", .clear, .optimize none] :=
    .tail _ (.tail _ (.head _))
  refine ⟨(hsteps _ (List.mem_append_left _ hclear)).bound none 0 rfl rfl rfl, ?_, ?_, ?_, ?_⟩
  · exact (hlives 0).1.mp ⟨by decide +kernel, by decide +kernel⟩
  · exact (hlives 3).1.mp ⟨by decide +kernel, by decide +kernel⟩
  · exact hcount hnames 0 (by decide +kernel)
  · exact hcount hnames 3 (by decide +kernel)

end Session

end StrategyCoordinator
