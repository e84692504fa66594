import StrategyCoordinator.Options.Edit
import StrategyCoordinator.Proofs.Fallible
import StrategyCoordinator.Proofs.NameMap
import StrategyCoordinator.Proofs.Options.Acceptance

/-!
# What an edit writes

An edit reads the entry of its own name and no other. Either it is refused, and the store stays as
it was, or it writes one entry under that name: a registration writes a fresh entry where there was
none, and setting and resetting write the entry that was there with another value. All that later
modules say about edits comes from the three cases of this relation.
-/

namespace StrategyCoordinator

/-- The entry that a registration starts with. -/
def Registration.entry (item : Registration) : OptionEntry :=
  ⟨item.kind, item.kind.canonical item.default, item.kind.canonical item.default, item.description⟩

/-- An entry that holds the form of a value offered to it. -/
def OptionEntry.holding (entry : OptionEntry) (value : OptionValue) : OptionEntry :=
  { entry with value := entry.kind.canonical value }

/-- An entry that holds its default. -/
def OptionEntry.restored (entry : OptionEntry) : OptionEntry :=
  { entry with value := entry.default }

/-- The same option with possibly another value. -/
structure OptionEntry.SameOption (before after : OptionEntry) : Prop where
  kind : after.kind = before.kind
  default : after.default = before.default
  description : after.description = before.description

/-- An entry is of the same option as itself. -/
theorem OptionEntry.SameOption.refl (entry : OptionEntry) : entry.SameOption entry :=
  ⟨rfl, rfl, rfl⟩

/-- Entries of the same option as a third one are of the same option. -/
theorem OptionEntry.SameOption.trans {a b c : OptionEntry} (h : a.SameOption b)
    (h' : b.SameOption c) : a.SameOption c :=
  ⟨h'.kind.trans h.kind, h'.default.trans h.default, h'.description.trans h.description⟩

namespace OptionStore

/-- The store with an entry put under a name. -/
def put (store : OptionStore) (name : String) (entry : OptionEntry) : OptionStore :=
  ⟨store.entries.insert name entry⟩

/-- The entry that was put under a name is found there. -/
@[simp] theorem find?_put_self (store : OptionStore) (name : String) (entry : OptionEntry) :
    (store.put name entry).entries.find? name = some entry :=
  NameMap.find?_insert_self store.entries name entry

/-- The entries of the other names are left. -/
theorem find?_put_of_ne (store : OptionStore) {name other : String} (entry : OptionEntry)
    (h : other ≠ name) : (store.put name entry).entries.find? other = store.entries.find? other :=
  NameMap.find?_insert_of_ne store.entries entry h

/-- Putting the entry under a name that is there already changes nothing. -/
theorem put_of_find? {store : OptionStore} {name : String} {entry : OptionEntry}
    (h : store.entries.find? name = some entry) : store.put name entry = store :=
  congrArg OptionStore.mk (NameMap.insert_of_find? h)

/-- The listed options are those found by their names. -/
theorem mem_toList {store : OptionStore} {name : String} {entry : OptionEntry} :
    (name, entry) ∈ store.toList ↔ store.entries.find? name = some entry :=
  NameMap.find?_eq_some_iff.symm

/-- Looking up a name succeeds with the entry that is found there. -/
theorem lookup_eq_ok {store : OptionStore} {name : String} {entry : OptionEntry} :
    store.lookup name = .ok entry ↔ store.entries.find? name = some entry := by
  unfold lookup entry?
  cases store.entries.find? name <;> simp

/-- A taken name cannot be registered again. -/
theorem register_of_isSome {store : OptionStore} {item : Registration}
    (h : (store.entries.find? item.name).isSome = true) :
    store.register item = .error (.alreadyRegistered item.name) := by
  have hcontains : store.entries.contains item.name = true := h
  simp only [register, hcontains, if_true]
  rfl

/-- A free name can be registered if the form of the default is admitted. -/
theorem register_eq_ok {store store' : OptionStore} {item : Registration} :
    store.register item = .ok store' ↔ store.entries.find? item.name = none ∧
      item.kind.Admits (item.kind.canonical item.default) ∧
      store' = store.put item.name item.entry := by
  cases hentry : store.entries.find? item.name with
  | some entry =>
    rw [register_of_isSome (Option.isSome_iff_exists.mpr ⟨entry, hentry⟩)]
    simp
  | none =>
    have hcontains : store.entries.contains item.name = false := congrArg Option.isSome hentry
    simp only [register, hcontains, Bool.false_eq_true, if_false, true_and]
    constructor
    · intro h
      obtain ⟨default, hdefault, hput⟩ := bind_eq_ok.mp h
      obtain ⟨rfl, hadmits⟩ := OptionKind.accept_eq_ok.mp hdefault
      cases hput
      exact ⟨hadmits, rfl⟩
    · rintro ⟨hadmits, rfl⟩
      exact bind_eq_ok.mpr ⟨_, OptionKind.accept_canonical_iff.mpr hadmits, rfl⟩

/-- A registered option can be set to a value if the form of the value is admitted. -/
theorem set_eq_ok {store store' : OptionStore} {name : String} {value : OptionValue} :
    store.set name value = .ok store' ↔ ∃ entry, store.entries.find? name = some entry ∧
      entry.kind.Admits (entry.kind.canonical value) ∧
      store' = store.put name (entry.holding value) := by
  constructor
  · intro h
    obtain ⟨entry, hentry, h⟩ := bind_eq_ok.mp h
    obtain ⟨held, hheld, h⟩ := bind_eq_ok.mp h
    obtain ⟨rfl, hadmits⟩ := OptionKind.accept_eq_ok.mp hheld
    cases h
    exact ⟨entry, lookup_eq_ok.mp hentry, hadmits, rfl⟩
  · rintro ⟨entry, hentry, hadmits, rfl⟩
    refine bind_eq_ok.mpr ⟨entry, lookup_eq_ok.mpr hentry, ?_⟩
    exact bind_eq_ok.mpr ⟨_, OptionKind.accept_canonical_iff.mpr hadmits, rfl⟩

/-- A registered option can always be reset. -/
theorem reset_eq_ok {store store' : OptionStore} {name : String} :
    store.reset name = .ok store' ↔ ∃ entry, store.entries.find? name = some entry ∧
      store' = store.put name entry.restored := by
  constructor
  · intro h
    obtain ⟨entry, hentry, h⟩ := bind_eq_ok.mp h
    cases h
    exact ⟨entry, lookup_eq_ok.mp hentry, rfl⟩
  · rintro ⟨entry, hentry, rfl⟩
    exact bind_eq_ok.mpr ⟨entry, lookup_eq_ok.mpr hentry, rfl⟩

end OptionStore

namespace StoreEdit

/-- The entry that an edit writes under its name, given what is there before. -/
inductive Writes : StoreEdit → Option OptionEntry → OptionEntry → Prop
  | register {item : Registration} (h : item.kind.Admits (item.kind.canonical item.default)) :
      Writes (.register item) none item.entry
  | set {name : String} {value : OptionValue} {entry : OptionEntry}
      (h : entry.kind.Admits (entry.kind.canonical value)) :
      Writes (.set name value) (some entry) (entry.holding value)
  | reset {name : String} {entry : OptionEntry} :
      Writes (.reset name) (some entry) entry.restored

/-- What an edit writes over an entry is of the same option. -/
theorem Writes.sameOption {edit : StoreEdit} {before after : OptionEntry}
    (h : edit.Writes (some before) after) : before.SameOption after := by
  cases h with
  | set => exact ⟨rfl, rfl, rfl⟩
  | reset => exact ⟨rfl, rfl, rfl⟩

/-- An edit is accepted exactly if there is an entry that it writes, and that entry is then put
under its name. -/
theorem result_eq_ok {edit : StoreEdit} {store store' : OptionStore} :
    edit.result store = .ok store' ↔ ∃ entry, edit.Writes (store.entries.find? edit.name) entry ∧
      store' = store.put edit.name entry := by
  cases edit with
  | register item =>
    refine OptionStore.register_eq_ok.trans ⟨?_, ?_⟩
    · rintro ⟨hfree, hadmits, rfl⟩
      refine ⟨item.entry, ?_, rfl⟩
      rw [show (register item).name = item.name from rfl, hfree]
      exact .register hadmits
    · rintro ⟨entry, hwrites, rfl⟩
      -- Each edit writes over one shape of the entry before, which its case then names.
      generalize hentry : store.entries.find? (register item).name = before at hwrites
      cases hwrites with
      | register hadmits => exact ⟨hentry, hadmits, rfl⟩
  | set name value =>
    refine OptionStore.set_eq_ok.trans ⟨?_, ?_⟩
    · rintro ⟨entry, hentry, hadmits, rfl⟩
      refine ⟨entry.holding value, ?_, rfl⟩
      rw [show (set name value).name = name from rfl, hentry]
      exact .set hadmits
    · rintro ⟨after, hwrites, rfl⟩
      generalize hentry : store.entries.find? (set name value).name = before at hwrites
      cases hwrites with
      | set hadmits => exact ⟨_, hentry, hadmits, rfl⟩
  | reset name =>
    refine OptionStore.reset_eq_ok.trans ⟨?_, ?_⟩
    · rintro ⟨entry, hentry, rfl⟩
      refine ⟨entry.restored, ?_, rfl⟩
      rw [show (reset name).name = name from rfl, hentry]
      exact .reset
    · rintro ⟨after, hwrites, rfl⟩
      generalize hentry : store.entries.find? (reset name).name = before at hwrites
      cases hwrites with
      | reset => exact ⟨_, hentry, rfl⟩

/-- Applying an edit either puts the entry that it writes under its name, or changes nothing and
tells why. -/
theorem apply_cases (edit : StoreEdit) (store : OptionStore) :
    (∃ entry, edit.Writes (store.entries.find? edit.name) entry ∧
      edit.apply store = (store.put edit.name entry, .ok ())) ∨
    (∃ e, (∀ entry, ¬edit.Writes (store.entries.find? edit.name) entry) ∧
      edit.apply store = (store, .error e)) := by
  unfold apply
  cases hresult : edit.result store with
  | ok store' =>
    obtain ⟨entry, hwrites, rfl⟩ := result_eq_ok.mp hresult
    exact Or.inl ⟨entry, hwrites, rfl⟩
  | error e =>
    refine Or.inr ⟨e, fun entry hwrites => ?_, rfl⟩
    have hok := result_eq_ok.mpr ⟨entry, hwrites, rfl⟩
    rw [hresult] at hok
    cases hok

/-- An edit leaves the entries of the other names. -/
theorem find?_apply_of_ne (edit : StoreEdit) (store : OptionStore) {other : String}
    (h : other ≠ edit.name) :
    (edit.apply store).1.entries.find? other = store.entries.find? other := by
  obtain ⟨entry, -, happly⟩ | ⟨e, -, happly⟩ := edit.apply_cases store
  · rw [happly]
    exact store.find?_put_of_ne entry h
  · rw [happly]

/-- A refused edit changes nothing. -/
theorem apply_of_error {edit : StoreEdit} {store : OptionStore} {e : OptionError}
    (h : (edit.apply store).2 = .error e) : (edit.apply store).1 = store := by
  obtain ⟨entry, -, happly⟩ | ⟨e, -, happly⟩ := edit.apply_cases store
  · rw [happly] at h
    cases h
  · rw [happly]

/-- An edit is accepted exactly if there is an entry that it writes. -/
theorem apply_eq_ok_iff {edit : StoreEdit} {store : OptionStore} :
    (edit.apply store).2 = .ok () ↔ ∃ entry, edit.Writes (store.entries.find? edit.name) entry := by
  obtain ⟨entry, hwrites, happly⟩ | ⟨e, hnone, happly⟩ := edit.apply_cases store
  · rw [happly]
    exact iff_of_true rfl ⟨entry, hwrites⟩
  · rw [happly]
    exact iff_of_false nofun fun ⟨entry, hwrites⟩ => hnone entry hwrites

/-- An option that is registered stays the same option, whatever is done to the store. -/
theorem sameOption_apply (edit : StoreEdit) {store : OptionStore} {name : String}
    {entry : OptionEntry} (h : store.entries.find? name = some entry) :
    ∃ after, (edit.apply store).1.entries.find? name = some after ∧ entry.SameOption after := by
  by_cases hname : name = edit.name
  · subst hname
    obtain ⟨after, hwrites, happly⟩ | ⟨e, -, happly⟩ := edit.apply_cases store
    · rw [h] at hwrites
      rw [happly]
      exact ⟨after, store.find?_put_self edit.name after, hwrites.sameOption⟩
    · rw [happly]
      exact ⟨entry, h, .refl entry⟩
  · rw [edit.find?_apply_of_ne store hname]
    exact ⟨entry, h, .refl entry⟩

end StoreEdit

namespace OptionStore

/-- Apply edits one after another. -/
def applyAll (store : OptionStore) : List StoreEdit → OptionStore
  | [] => store
  | edit :: rest => (edit.apply store).1.applyAll rest

/-- One sequence of edits after another. -/
theorem applyAll_append (store : OptionStore) (first second : List StoreEdit) :
    store.applyAll (first ++ second) = (store.applyAll first).applyAll second := by
  induction first generalizing store with
  | nil => rfl
  | cons edit rest ih => exact ih (edit.apply store).1

/-- What every edit preserves holds after every sequence of edits. -/
theorem applyAll_invariant {P : OptionStore → Prop}
    (hstep : ∀ (edit : StoreEdit) store, P store → P (edit.apply store).1) {store : OptionStore}
    (h : P store) (edits : List StoreEdit) : P (store.applyAll edits) := by
  induction edits generalizing store with
  | nil => exact h
  | cons edit rest ih => exact ih (hstep edit store h)

/-- An option that is registered stays the same option for good. -/
theorem sameOption_applyAll {store : OptionStore} {name : String} {entry : OptionEntry}
    (h : store.entries.find? name = some entry) (edits : List StoreEdit) :
    ∃ after, (store.applyAll edits).entries.find? name = some after ∧ entry.SameOption after := by
  have hstep (edit : StoreEdit) (s : OptionStore)
      (hs : ∃ after, s.entries.find? name = some after ∧ entry.SameOption after) :
      ∃ after, (edit.apply s).1.entries.find? name = some after ∧ entry.SameOption after := by
    obtain ⟨middle, hmiddle, hsame⟩ := hs
    obtain ⟨after, hafter, hsame'⟩ := edit.sameOption_apply hmiddle
    exact ⟨after, hafter, hsame.trans hsame'⟩
  exact applyAll_invariant hstep ⟨entry, h, .refl entry⟩ edits

end OptionStore

end StrategyCoordinator
