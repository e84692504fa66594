import StrategyCoordinator.Proofs.Coordinator.Assembly

/-!
# The roll of the live backends

A backend lives from the event that it was built to the event that it was dropped. Whether the
events of a coordinator treat backends well can be seen from the events alone: a roll of the
live backends, kept along the events, says at each event whether it is allowed, and there is
room on it for at most one outer backend and one inner one. What holds of events along which a
roll can be kept holds of each of their prefixes, since the roll is kept from the start.
-/

namespace StrategyCoordinator

namespace Role

/-- The part of a backend that drives others. -/
def IsOuter : Role → Prop
  | .trustRegion | .asymptotes => True
  | _ => False

/-- The part of an interior-point backend. -/
def IsInner : Role → Prop
  | .interiorPoint _ => True
  | _ => False

/-- The part of a backend, as opposed to that of a curvature approximation. -/
def IsBackend (role : Role) : Prop :=
  role.IsOuter ∨ role.IsInner

/-- A curvature approximation is no backend. -/
theorem not_isBackend_curvature : ¬Role.curvature.IsBackend := by
  simp [IsBackend, IsOuter, IsInner]

/-- No backend is an outer one and an inner one. -/
theorem IsOuter.not_isInner {role : Role} (h : role.IsOuter) : ¬role.IsInner := by
  cases role <;> simp_all [IsOuter, IsInner]

end Role

/-- An object lives after events in which it was built and not dropped. -/
def Lives (past : List Event) (role : Role) (serial : Nat) : Prop :=
  .built role serial ∈ past ∧ .dropped role serial ∉ past

/-- What the events of a coordinator keep to at every point, also in the middle of a switch. -/
structure Orderly (trace : List Event) : Prop where
  /-- At most one interior-point backend lives. -/
  inner : ∀ past, past <+: trace → ∀ role role' serial serial', role.IsInner → role'.IsInner →
    Lives past role serial → Lives past role' serial' → role = role' ∧ serial = serial'
  /-- At most one outer backend lives, so never a trust-region and a moving-asymptotes one. -/
  outer : ∀ past, past <+: trace → ∀ role role' serial serial', role.IsOuter → role'.IsOuter →
    Lives past role serial → Lives past role' serial' → role = role' ∧ serial = serial'
  /-- Each backend is built once. -/
  built : ∀ past role serial, past ++ [.built role serial] <+: trace → .built role serial ∉ past
  /-- A backend is run only while it lives. -/
  ran : ∀ past role serial, past ++ [.ran role serial] <+: trace → Lives past role serial
  /-- A backend is dropped only while it lives, so it is dropped once. -/
  dropped : ∀ past role serial, role.IsBackend → past ++ [.dropped role serial] <+: trace →
    Lives past role serial
  /-- When an interior-point backend is dropped, no outer backend is left. -/
  outerFirst : ∀ past inner serial, inner.IsInner → past ++ [.dropped inner serial] <+: trace →
    ∀ outer serial', outer.IsOuter → ¬Lives past outer serial'

/-- The live backends, the outer one first, and a number above all serial numbers so far. -/
structure Roll where
  next : Nat
  live : List (Role × Nat)

namespace Roll

/-- The roll before anything was built. -/
def start : Roll :=
  ⟨0, []⟩

/-- An event that a roll allows, with the roll after it. -/
inductive Notes : Roll → Event → Roll → Prop
  | checkpoint (roll : Roll) (path : String) : Notes roll (.checkpoint path) roll
  | ran (roll : Roll) {role : Role} {serial : Nat} (h : (role, serial) ∈ roll.live) :
      Notes roll (.ran role serial) roll
  | buildModel (live : List (Role × Nat)) {next serial : Nat} (h : next ≤ serial) :
      Notes ⟨next, live⟩ (.built .curvature serial) ⟨serial + 1, live⟩
  | dropModel (roll : Roll) (serial : Nat) : Notes roll (.dropped .curvature serial) roll
  | buildFirst {role : Role} {next serial : Nat} (h : next ≤ serial) (hrole : role.IsBackend) :
      Notes ⟨next, []⟩ (.built role serial) ⟨serial + 1, [(role, serial)]⟩
  | buildOuter {outer inner : Role} {next serial other : Nat} (h : next ≤ serial)
      (houter : outer.IsOuter) (hinner : inner.IsInner) :
      Notes ⟨next, [(inner, other)]⟩ (.built outer serial)
        ⟨serial + 1, [(outer, serial), (inner, other)]⟩
  | buildInner {outer inner : Role} {next serial other : Nat} (h : next ≤ serial)
      (houter : outer.IsOuter) (hinner : inner.IsInner) :
      Notes ⟨next, [(outer, other)]⟩ (.built inner serial)
        ⟨serial + 1, [(outer, other), (inner, serial)]⟩
  | drop (next : Nat) (role : Role) (serial : Nat) (rest : List (Role × Nat)) :
      Notes ⟨next, (role, serial) :: rest⟩ (.dropped role serial) ⟨next, rest⟩

/-- Whatever is built has a serial number that was not given before. -/
theorem Notes.next_le {roll roll' : Roll} {role : Role} {serial : Nat}
    (h : Notes roll (.built role serial) roll') : roll.next ≤ serial := by
  cases h <;> assumption

/-- Events that a roll allows one after another, with the roll after them. -/
inductive Follows : Roll → List Event → Roll → Prop
  | nil (roll : Roll) : Follows roll [] roll
  | cons {roll middle final : Roll} {event : Event} {rest : List Event}
      (h : Notes roll event middle) (hrest : Follows middle rest final) :
      Follows roll (event :: rest) final

namespace Follows

/-- Allowed events can follow each other. -/
theorem append {roll middle final : Roll} {first second : List Event}
    (h : Follows roll first middle) (h' : Follows middle second final) :
    Follows roll (first ++ second) final := by
  induction h with
  | nil => exact h'
  | cons hnotes _ ih => exact .cons hnotes (ih h')

/-- One allowed event. -/
theorem one {roll final : Roll} {event : Event} (h : Notes roll event final) :
    Follows roll [event] final :=
  .cons h (.nil final)

/-- There is a roll between any two parts of allowed events. -/
theorem split {roll final : Roll} {first second : List Event}
    (h : Follows roll (first ++ second) final) :
    ∃ middle, Follows roll first middle ∧ Follows middle second final := by
  induction first generalizing roll with
  | nil => exact ⟨roll, .nil roll, h⟩
  | cons event first ih =>
    cases h with
    | cons hnotes hrest =>
      obtain ⟨middle, hfirst, hsecond⟩ := ih hrest
      exact ⟨middle, .cons hnotes hfirst, hsecond⟩

end Follows

/-- What is on a roll: nothing, one backend, or an outer backend and an inner one. -/
inductive Fits : List (Role × Nat) → Prop
  | none : Fits []
  | one {role : Role} (serial : Nat) (h : role.IsBackend) : Fits [(role, serial)]
  | two {outer inner : Role} (serial other : Nat) (houter : outer.IsOuter)
      (hinner : inner.IsInner) : Fits [(outer, serial), (inner, other)]

namespace Fits

/-- Whatever is on a roll is a backend. -/
theorem isBackend {live : List (Role × Nat)} (h : Fits live) {role : Role} {serial : Nat}
    (hmem : (role, serial) ∈ live) : role.IsBackend := by
  cases h with
  | none => cases hmem
  | one other h =>
    obtain ⟨rfl, rfl⟩ := Prod.mk.inj (List.mem_singleton.mp hmem)
    exact h
  | two first second houter hinner =>
    rcases List.mem_cons.mp hmem with heq | hmem
    · obtain ⟨rfl, rfl⟩ := Prod.mk.inj heq
      exact Or.inl houter
    · obtain ⟨rfl, rfl⟩ := Prod.mk.inj (List.mem_singleton.mp hmem)
      exact Or.inr hinner

/-- What is left on a roll without its first backend. -/
theorem tail {first : Role × Nat} {rest : List (Role × Nat)} (h : Fits (first :: rest)) :
    Fits rest := by
  cases h with
  | one => exact .none
  | two _ other _ hinner => exact .one other (Or.inr hinner)

/-- No backend is on a roll twice. -/
theorem not_mem_tail {first : Role × Nat} {rest : List (Role × Nat)} (h : Fits (first :: rest)) :
    first ∉ rest := by
  cases h with
  | one => exact List.not_mem_nil
  | two serial other houter hinner =>
    intro hmem
    obtain ⟨rfl, -⟩ := Prod.mk.inj (List.mem_singleton.mp hmem)
    exact houter.not_isInner hinner

/-- There is one inner backend on a roll at most. -/
theorem unique_inner {live : List (Role × Nat)} (h : Fits live) {role role' : Role}
    {serial serial' : Nat} (hrole : role.IsInner) (hrole' : role'.IsInner)
    (hmem : (role, serial) ∈ live) (hmem' : (role', serial') ∈ live) :
    role = role' ∧ serial = serial' := by
  cases h with
  | none => cases hmem
  | one => simp_all
  | two first second houter hinner =>
    have hfirst := houter.not_isInner
    grind

/-- There is one outer backend on a roll at most. -/
theorem unique_outer {live : List (Role × Nat)} (h : Fits live) {role role' : Role}
    {serial serial' : Nat} (hrole : role.IsOuter) (hrole' : role'.IsOuter)
    (hmem : (role, serial) ∈ live) (hmem' : (role', serial') ∈ live) :
    role = role' ∧ serial = serial' := by
  have hinner := hrole.not_isInner
  have hinner' := hrole'.not_isInner
  cases h with
  | none => cases hmem
  | one => simp_all
  | two => grind

/-- No outer backend is on a roll that starts with an inner one. -/
theorem not_outer_of_head {role outer : Role} {serial serial' : Nat} {rest : List (Role × Nat)}
    (h : Fits ((role, serial) :: rest)) (hrole : role.IsInner) (houter : outer.IsOuter) :
    (outer, serial') ∉ (role, serial) :: rest := by
  have hinner := houter.not_isInner
  cases h with
  | one => grind
  | two _ _ hfirst => exact absurd hrole hfirst.not_isInner

end Fits

/-- A roll agrees with the events along which it was kept. -/
structure Tracks (past : List Event) (roll : Roll) : Prop where
  fits : Fits roll.live
  lives : ∀ role serial, role.IsBackend → (Lives past role serial ↔ (role, serial) ∈ roll.live)
  built : ∀ role serial, .built role serial ∈ past → serial < roll.next
  dropped : ∀ role serial, role.IsBackend → .dropped role serial ∈ past → serial < roll.next

/-- At the start a roll agrees with the events. -/
theorem tracks_start : Tracks [] start :=
  ⟨.none, fun _ _ _ => by simp [Lives, start], nofun, nofun⟩

/-- An event of another object leaves alive what lives. -/
theorem lives_append_of_ne {past : List Event} {event : Event} {role : Role} {serial : Nat}
    (hbuilt : event ≠ .built role serial) (hdropped : event ≠ .dropped role serial) :
    Lives (past ++ [event]) role serial ↔ Lives past role serial := by
  simp [Lives, hbuilt.symm, hdropped.symm]

/-- An event that builds nothing and drops no backend leaves the agreement. -/
theorem Tracks.skip {past : List Event} {roll : Roll} (h : Tracks past roll) {event : Event}
    (hbuilt : ∀ role serial, event ≠ .built role serial)
    (hdropped : ∀ role serial, role.IsBackend → event ≠ .dropped role serial) :
    Tracks (past ++ [event]) roll := by
  refine ⟨h.fits, fun role serial hrole => ?_, fun role serial hmem => ?_,
    fun role serial hrole hmem => ?_⟩
  · rw [lives_append_of_ne (hbuilt role serial) (hdropped role serial hrole)]
    exact h.lives role serial hrole
  · rcases List.mem_append.mp hmem with hmem | hmem
    · exact h.built role serial hmem
    · exact absurd (List.mem_singleton.mp hmem).symm (hbuilt role serial)
  · rcases List.mem_append.mp hmem with hmem | hmem
    · exact h.dropped role serial hrole hmem
    · exact absurd (List.mem_singleton.mp hmem).symm (hdropped role serial hrole)

/-- Building an object with a fresh serial number keeps the agreement if its backend, when it is
one, is put on the roll. -/
theorem Tracks.build {past : List Event} {roll : Roll} (h : Tracks past roll) {role : Role}
    {serial : Nat} (hfresh : roll.next ≤ serial) {live : List (Role × Nat)} (hfits : Fits live)
    (hlive : ∀ other, other.1.IsBackend →
      (other ∈ live ↔ other = (role, serial) ∨ other ∈ roll.live)) :
    Tracks (past ++ [.built role serial]) ⟨serial + 1, live⟩ := by
  refine ⟨hfits, fun other number hother => ?_, fun other number hmem => ?_,
    fun other number hother hmem => ?_⟩
  · rw [hlive (other, number) hother]
    by_cases hsame : (other, number) = (role, serial)
    · obtain ⟨rfl, rfl⟩ := Prod.mk.inj hsame
      have hnew : .dropped other number ∉ past := fun hmem =>
        absurd (h.dropped other number hother hmem) (Nat.not_lt.mpr hfresh)
      simp [Lives, hnew]
    · have hbuilt : Event.built role serial ≠ .built other number := by
        rintro ⟨⟩
        exact hsame rfl
      rw [lives_append_of_ne hbuilt (by simp), h.lives other number hother]
      simp [hsame]
  · rcases List.mem_append.mp hmem with hmem | hmem
    · exact Nat.lt_succ_of_lt (Nat.lt_of_lt_of_le (h.built other number hmem) hfresh)
    · obtain ⟨rfl, rfl⟩ := Event.built.inj (List.mem_singleton.mp hmem)
      exact Nat.lt_succ_self number
  · rcases List.mem_append.mp hmem with hmem | hmem
    · exact Nat.lt_succ_of_lt (Nat.lt_of_lt_of_le (h.dropped other number hother hmem) hfresh)
    · cases List.mem_singleton.mp hmem

/-- Dropping the first backend on the roll keeps the agreement if it is taken off the roll. -/
theorem Tracks.drop {past : List Event} {next : Nat} {role : Role} {serial : Nat}
    {rest : List (Role × Nat)} (h : Tracks past ⟨next, (role, serial) :: rest⟩) :
    Tracks (past ++ [.dropped role serial]) ⟨next, rest⟩ := by
  have hfits := h.fits.tail
  have hrole : role.IsBackend := h.fits.isBackend List.mem_cons_self
  obtain ⟨hbuilt, -⟩ := (h.lives role serial hrole).mpr List.mem_cons_self
  refine ⟨hfits, fun other number hother => ?_, fun other number hmem => ?_,
    fun other number hother hmem => ?_⟩
  · by_cases hsame : (other, number) = (role, serial)
    · obtain ⟨rfl, rfl⟩ := Prod.mk.inj hsame
      exact iff_of_false (fun hlives => hlives.2 (by simp)) h.fits.not_mem_tail
    · have hdropped : Event.dropped role serial ≠ .dropped other number := by
        rintro ⟨⟩
        exact hsame rfl
      rw [lives_append_of_ne (by simp) hdropped, h.lives other number hother]
      simp [hsame]
  · rcases List.mem_append.mp hmem with hmem | hmem
    · exact h.built other number hmem
    · cases List.mem_singleton.mp hmem
  · rcases List.mem_append.mp hmem with hmem | hmem
    · exact h.dropped other number hother hmem
    · obtain ⟨rfl, rfl⟩ := Event.dropped.inj (List.mem_singleton.mp hmem)
      exact h.built other number hbuilt

/-- An event that the roll allows keeps the agreement. -/
theorem Tracks.note {past : List Event} {roll roll' : Roll} {event : Event}
    (h : Tracks past roll) (hnotes : Notes roll event roll') : Tracks (past ++ [event]) roll' := by
  cases hnotes with
  | checkpoint path => exact h.skip nofun nofun
  | ran hmem => exact h.skip nofun nofun
  | dropModel serial =>
    refine h.skip nofun fun role serial hrole => ?_
    rintro ⟨⟩
    exact Role.not_isBackend_curvature hrole
  | @buildModel _ _ serial hfresh =>
    refine h.build hfresh h.fits fun other hother => ?_
    have hne : other ≠ (.curvature, serial) := by
      rintro rfl
      exact Role.not_isBackend_curvature hother
    simp [hne]
  | buildFirst hfresh hrole => exact h.build hfresh (.one _ hrole) (by simp)
  | buildOuter hfresh houter hinner => exact h.build hfresh (.two _ _ houter hinner) (by simp)
  | buildInner hfresh houter hinner =>
    exact h.build hfresh (.two _ _ houter hinner) (by simp [or_comm])
  | drop next role serial rest => exact h.drop

/-- Allowed events keep the agreement. -/
theorem Tracks.follow {past events : List Event} {roll roll' : Roll} (h : Tracks past roll)
    (hfollows : Follows roll events roll') : Tracks (past ++ events) roll' := by
  induction hfollows generalizing past with
  | nil => rwa [List.append_nil]
  | @cons _ _ _ event rest hnotes _ ih =>
    rw [List.append_cons]
    exact ih (h.note hnotes)

/-- Along events that are allowed from the start, the roll agrees with them. -/
theorem Follows.tracks {trace : List Event} {final : Roll} (h : Follows start trace final) :
    Tracks trace final :=
  tracks_start.follow h

/-- At each prefix of allowed events there is a roll that agrees with it. -/
theorem Follows.tracks_prefix {trace past : List Event} {final : Roll}
    (h : Follows start trace final) (hpast : past <+: trace) : ∃ roll, Tracks past roll := by
  obtain ⟨future, rfl⟩ := hpast
  obtain ⟨roll, hpast, -⟩ := h.split
  exact ⟨roll, hpast.tracks⟩

/-- Each of the allowed events is noted on a roll that agrees with the events before it. -/
theorem Follows.notes_prefix {trace past : List Event} {event : Event} {final : Roll}
    (h : Follows start trace final) (hpast : past ++ [event] <+: trace) :
    ∃ roll roll', Tracks past roll ∧ Notes roll event roll' := by
  obtain ⟨future, rfl⟩ := hpast
  obtain ⟨roll', hpast, -⟩ := h.split
  obtain ⟨roll, hbefore, hevent⟩ := hpast.split
  cases hevent with
  | cons hnotes hnil => exact ⟨roll, _, hbefore.tracks, hnotes⟩

/-- Events along which a roll can be kept are orderly. -/
theorem Follows.orderly {trace : List Event} {final : Roll} (h : Follows start trace final) :
    Orderly trace where
  inner past hpast role role' serial serial' hrole hrole' hlives hlives' := by
    obtain ⟨roll, htracks⟩ := h.tracks_prefix hpast
    exact htracks.fits.unique_inner hrole hrole'
      ((htracks.lives role serial (Or.inr hrole)).mp hlives)
      ((htracks.lives role' serial' (Or.inr hrole')).mp hlives')
  outer past hpast role role' serial serial' hrole hrole' hlives hlives' := by
    obtain ⟨roll, htracks⟩ := h.tracks_prefix hpast
    exact htracks.fits.unique_outer hrole hrole'
      ((htracks.lives role serial (Or.inl hrole)).mp hlives)
      ((htracks.lives role' serial' (Or.inl hrole')).mp hlives')
  built past role serial hpast hmem := by
    obtain ⟨roll, roll', htracks, hnotes⟩ := h.notes_prefix hpast
    exact absurd (htracks.built role serial hmem) (Nat.not_lt.mpr hnotes.next_le)
  ran past role serial hpast := by
    obtain ⟨roll, roll', htracks, hnotes⟩ := h.notes_prefix hpast
    cases hnotes with
    | ran _ hmem => exact (htracks.lives role serial (htracks.fits.isBackend hmem)).mpr hmem
  dropped past role serial hrole hpast := by
    obtain ⟨roll, roll', htracks, hnotes⟩ := h.notes_prefix hpast
    cases hnotes with
    | dropModel => exact absurd hrole Role.not_isBackend_curvature
    | drop => exact (htracks.lives role serial hrole).mpr List.mem_cons_self
  outerFirst past inner serial hinner hpast outer serial' houter hlives := by
    obtain ⟨roll, roll', htracks, hnotes⟩ := h.notes_prefix hpast
    have hmem := (htracks.lives outer serial' (Or.inl houter)).mp hlives
    cases hnotes with
    | dropModel => exact hinner
    | drop => exact htracks.fits.not_outer_of_head hinner houter hmem

end Roll

end StrategyCoordinator
