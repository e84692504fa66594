import StrategyCoordinator.Proofs.Options.Writing

/-!
# Options hold what their kinds admit

Readers look at the held value alone and setters at the kind alone. They agree on every store that
was made by edits, because each edit writes an entry whose default and value are admitted by its
kind. So readers of the kind's sort succeed, numbers lie within their range, and the held value can
always be set again. A store that was read from bytes has no such history; but even there an option
that was set holds a value that its kind admits.
-/

namespace StrategyCoordinator

/-- The default and the held value of an option are admitted by its kind. -/
structure OptionEntry.Valid (entry : OptionEntry) : Prop where
  default : entry.kind.Admits entry.default
  value : entry.kind.Admits entry.value

namespace StoreEdit

/-- What an edit writes is valid if the entry before is. -/
theorem Writes.valid {edit : StoreEdit} {before : Option OptionEntry} {after : OptionEntry}
    (h : edit.Writes before after) (hbefore : ∀ entry, before = some entry → entry.Valid) :
    after.Valid := by
  cases h with
  | register hadmits => exact ⟨hadmits, hadmits⟩
  | set hadmits => exact ⟨(hbefore _ rfl).default, hadmits⟩
  | reset => exact ⟨(hbefore _ rfl).default, (hbefore _ rfl).default⟩

end StoreEdit

namespace OptionStore

/-- Every option of a store is valid. -/
def Valid (store : OptionStore) : Prop :=
  ∀ name entry, store.entries.find? name = some entry → entry.Valid

/-- The store without options is valid. -/
theorem empty_valid : empty.Valid :=
  nofun

/-- A store stays valid if a valid entry is put into it. -/
theorem Valid.put {store : OptionStore} (h : store.Valid) {name : String} {entry : OptionEntry}
    (hentry : entry.Valid) : (store.put name entry).Valid := by
  intro other found hfound
  by_cases hother : other = name
  · subst hother
    rw [find?_put_self] at hfound
    exact Option.some.inj hfound ▸ hentry
  · rw [store.find?_put_of_ne entry hother] at hfound
    exact h other found hfound

/-- Every edit leaves a valid store, whether it is accepted or refused. -/
theorem Valid.apply {store : OptionStore} (h : store.Valid) (edit : StoreEdit) :
    (edit.apply store).1.Valid := by
  obtain ⟨entry, hwrites, happly⟩ | ⟨e, -, happly⟩ := edit.apply_cases store
  · rw [happly]
    exact h.put (hwrites.valid fun before => h edit.name before)
  · rw [happly]
    exact h

/-- So does every sequence of edits. -/
theorem Valid.applyAll {store : OptionStore} (h : store.Valid) (edits : List StoreEdit) :
    (store.applyAll edits).Valid :=
  applyAll_invariant (P := Valid) (fun edit _ hs => hs.apply edit) h edits

section Readers

variable {store : OptionStore} {name : String} {entry : OptionEntry}

/-- Reading a boolean looks at the held value. -/
theorem getBool_of_find? (h : store.entries.find? name = some entry) :
    store.getBool name = match entry.value with
      | .bool value => .ok value
      | _ => .error (.typeMismatch name .boolean) := by
  rw [getBool, lookup_eq_ok.mpr h]
  rfl

/-- Reading an integer looks at the held value. -/
theorem getInt_of_find? (h : store.entries.find? name = some entry) :
    store.getInt name = match entry.value with
      | .int value => .ok value
      | _ => .error (.typeMismatch name .integer) := by
  rw [getInt, lookup_eq_ok.mpr h]
  rfl

/-- Reading a floating number looks at the held value. -/
theorem getFloat_of_find? (h : store.entries.find? name = some entry) :
    store.getFloat name = match entry.value with
      | .float value => .ok value
      | _ => .error (.typeMismatch name .float) := by
  rw [getFloat, lookup_eq_ok.mpr h]
  rfl

/-- Reading a text looks at the held value, which may be a choice. -/
theorem getStr_of_find? (h : store.entries.find? name = some entry) :
    store.getStr name = match entry.value with
      | .str value => .ok value
      | .choice value => .ok (some value)
      | _ => .error (.typeMismatch name .string) := by
  rw [getStr, lookup_eq_ok.mpr h]
  rfl

/-- Reading a text that must be there looks at the held value. -/
theorem getChoice_of_find? (h : store.entries.find? name = some entry) :
    store.getChoice name = match entry.value with
      | .str (some value) => .ok value
      | .str none => .error (.unset name)
      | .choice value => .ok value
      | _ => .error (.typeMismatch name .string) := by
  rw [getChoice, getStr_of_find? h]
  cases entry.value with
  | str value => cases value <;> rfl
  | bool | int | float | choice => rfl

/-- A boolean is read exactly where one is held. -/
theorem exists_getBool_iff (h : store.entries.find? name = some entry) :
    (∃ value, store.getBool name = .ok value) ↔ entry.value.sort = .boolean := by
  rw [getBool_of_find? h]
  cases entry.value <;> simp [OptionValue.sort]

/-- An integer is read exactly where one is held. -/
theorem exists_getInt_iff (h : store.entries.find? name = some entry) :
    (∃ value, store.getInt name = .ok value) ↔ entry.value.sort = .integer := by
  rw [getInt_of_find? h]
  cases entry.value <;> simp [OptionValue.sort]

/-- A floating number is read exactly where one is held. -/
theorem exists_getFloat_iff (h : store.entries.find? name = some entry) :
    (∃ value, store.getFloat name = .ok value) ↔ entry.value.sort = .float := by
  rw [getFloat_of_find? h]
  cases entry.value <;> simp [OptionValue.sort]

/-- A text is read exactly where a text or a choice is held. -/
theorem exists_getStr_iff (h : store.entries.find? name = some entry) :
    (∃ value, store.getStr name = .ok value) ↔
      entry.value.sort = .string ∨ entry.value.sort = .enumeratedString := by
  rw [getStr_of_find? h]
  cases entry.value <;> simp [OptionValue.sort]

/-- Where a text or a choice is held, a text that must be there is missing only if it is unset. -/
theorem getChoice_eq_error_iff (h : store.entries.find? name = some entry)
    (hsort : entry.value.sort = .string ∨ entry.value.sort = .enumeratedString)
    {e : OptionError} :
    store.getChoice name = .error e ↔ e = .unset name ∧ entry.value = .str none := by
  rw [getChoice_of_find? h]
  cases hvalue : entry.value with
  | str value => cases value <;> simp [eq_comm]
  | choice value => simp
  | bool | int | float =>
    rw [hvalue] at hsort
    simp [OptionValue.sort] at hsort

end Readers

/-- An option of a store whose values are in the form that its kind holds, with what follows for
reading it and for setting it again. -/
structure Consistent (store : OptionStore) (name : String) (entry : OptionEntry) : Prop where
  /-- The default is accepted as it is. -/
  default_accepted : entry.kind.accept name entry.default = .ok entry.default
  /-- The held value is accepted as it is. -/
  value_accepted : entry.kind.accept name entry.value = .ok entry.value
  /-- The default is of the kind's sort, within its range or among its choices. -/
  default_admitted : entry.kind.Admits entry.default
  /-- So is the held value. -/
  value_admitted : entry.kind.Admits entry.value
  /-- Neither a floating bound nor a floating value is missing a number. -/
  numbers : ∀ lower upper, entry.kind = .float lower upper → ∃ default value,
    entry.default = .float default ∧ entry.value = .float value ∧ lower.isNaN = false ∧
      upper.isNaN = false ∧ default.isNaN = false ∧ value.isNaN = false
  bool : (∃ value, store.getBool name = .ok value) ↔ entry.kind = .bool
  int : (∃ value, store.getInt name = .ok value) ↔ ∃ lower upper, entry.kind = .int lower upper
  float : (∃ value, store.getFloat name = .ok value) ↔
    ∃ lower upper, entry.kind = .float lower upper
  str : (∃ value, store.getStr name = .ok value) ↔
    entry.kind = .str ∨ ∃ values, entry.kind = .choice values
  /-- Integers that are read lie within the range. -/
  int_range : ∀ lower upper value, entry.kind = .int lower upper →
    store.getInt name = .ok value → lower.toInt ≤ value.toInt ∧ value.toInt ≤ upper.toInt
  /-- Floating numbers that are read lie within the range. -/
  float_range : ∀ lower upper value, entry.kind = .float lower upper →
    store.getFloat name = .ok value → lower.numLe value = true ∧ value.numLe upper = true
  /-- A text that must be there is missing only where a text option holds none. -/
  choice : (entry.kind = .str ∨ ∃ values, entry.kind = .choice values) → ∀ e,
    store.getChoice name = .error e ↔ e = .unset name ∧ entry.value = .str none
  /-- Setting the option to the value that it holds is accepted and changes nothing. -/
  set_again : store.set name entry.value = .ok store

/-- The held value of a valid option can be set again. -/
theorem set_value {store : OptionStore} {name : String} {entry : OptionEntry}
    (h : store.entries.find? name = some entry) (hvalid : entry.Valid) :
    store.set name entry.value = .ok store := by
  have hcanonical := hvalid.value.canonical_eq
  have hholding : entry.holding entry.value = entry := by
    rw [OptionEntry.holding, hcanonical]
  refine set_eq_ok.mpr ⟨entry, h, hcanonical.symm ▸ hvalid.value, ?_⟩
  rw [hholding, put_of_find? h]

/-- A valid option is consistent. -/
theorem consistent_of_valid {store : OptionStore} {name : String} {entry : OptionEntry}
    (h : store.entries.find? name = some entry) (hvalid : entry.Valid) :
    store.Consistent name entry := by
  have hsort := hvalid.value.sort_eq
  have htext : entry.value.sort = .string ∨ entry.value.sort = .enumeratedString ↔
      entry.kind = .str ∨ ∃ values, entry.kind = .choice values := by
    rw [hsort]
    cases entry.kind <;> simp [OptionKind.sort]
  refine {
    default_accepted := OptionKind.accept_self_iff.mpr hvalid.default
    value_accepted := OptionKind.accept_self_iff.mpr hvalid.value
    default_admitted := hvalid.default
    value_admitted := hvalid.value
    numbers := ?_, bool := ?_, int := ?_, float := ?_, str := ?_
    int_range := ?_, float_range := ?_, choice := ?_
    set_again := set_value h hvalid }
  · intro lower upper hkind
    obtain ⟨default, hdefault, hlower, hupper⟩ := (hkind ▸ hvalid.default).exists_float
    obtain ⟨value, hvalue, hlower', -⟩ := (hkind ▸ hvalid.value).exists_float
    exact ⟨default, value, hdefault, hvalue, (Binary64.isNaN_of_numLe hlower).1,
      (Binary64.isNaN_of_numLe hupper).2, (Binary64.isNaN_of_numLe hlower).2,
      (Binary64.isNaN_of_numLe hlower').2⟩
  · rw [exists_getBool_iff h, hsort]
    cases entry.kind <;> simp [OptionKind.sort]
  · rw [exists_getInt_iff h, hsort]
    cases entry.kind <;> simp [OptionKind.sort]
  · rw [exists_getFloat_iff h, hsort]
    cases entry.kind <;> simp [OptionKind.sort]
  · rw [exists_getStr_iff h, htext]
  · intro lower upper value hkind hread
    obtain ⟨held, hvalue, hrange⟩ := (hkind ▸ hvalid.value).exists_int
    rw [getInt_of_find? h, hvalue] at hread
    exact Except.ok.inj hread ▸ hrange
  · intro lower upper value hkind hread
    obtain ⟨held, hvalue, hrange⟩ := (hkind ▸ hvalid.value).exists_float
    rw [getFloat_of_find? h, hvalue] at hread
    exact Except.ok.inj hread ▸ hrange
  · intro hkind e
    exact getChoice_eq_error_iff h (htext.mpr hkind)

/-- An option that was set holds a value that its kind admits, whatever the store held before. -/
theorem admits_of_set {store store' : OptionStore} {name : String} {value : OptionValue}
    (h : store.set name value = .ok store') :
    ∃ entry, store'.entries.find? name = some entry ∧ entry.kind.Admits entry.value := by
  obtain ⟨entry, -, hadmits, rfl⟩ := set_eq_ok.mp h
  exact ⟨entry.holding value, store.find?_put_self name _, hadmits⟩

/-- In every store that was made by edits, accepted or refused, every listed option is consistent:
its default and its value are in the form that its kind holds, and its readers can rely on that.
In any store whatever, an option that was set holds a value in that form. -/
theorem edited_options_consistent (edits : List StoreEdit) :
    (∀ name entry, (name, entry) ∈ (empty.applyAll edits).toList →
      (empty.applyAll edits).Consistent name entry) ∧
    ∀ (store store' : OptionStore) (name : String) (value : OptionValue),
      store.set name value = .ok store' → ∃ entry, store'.entries.find? name = some entry ∧
        entry.kind.accept name entry.value = .ok entry.value ∧
        entry.kind.Admits entry.value := by
  refine ⟨fun name entry hentry => ?_, fun store store' name value hset => ?_⟩
  · have hvalid := empty_valid.applyAll edits
    rw [mem_toList] at hentry
    exact consistent_of_valid hentry (hvalid name entry hentry)
  · obtain ⟨entry, hentry, hadmits⟩ := admits_of_set hset
    exact ⟨entry, hentry, OptionKind.accept_self_iff.mpr hadmits, hadmits⟩

/-- A step size between zero and four is registered as one, set to the integer two, and refused a
value that is not a number: it is listed with the floating number two, and consistent. An option
whose value does not fit its kind fits it once it was set. -/
theorem step_size_consistent :
    let number (n : Int) := Binary64.ofInt n
    let edits : List StoreEdit :=
      [.register (.float "step" (number 1) (number 0) (number 4) "Step size"),
        .set "step" (.int 2), .set "step" (.float .nan)]
    let entry : OptionEntry := ⟨.float (number 0) (number 4), .float (number 1),
      .float (number 2), "Step size"⟩
    let unfit : OptionStore := empty.put "size" ⟨.int 0 5, .int 9, .str none, "Size"⟩
    ("step", entry) ∈ (empty.applyAll edits).toList ∧
      (empty.applyAll edits).Consistent "step" entry ∧
      ∃ store' entry', unfit.set "size" (.int 3) = .ok store' ∧
        store'.entries.find? "size" = some entry' ∧ entry'.kind.Admits entry'.value := by
  intro number edits entry unfit
  have hlisted : ("step", entry) ∈ (empty.applyAll edits).toList := by decide
  obtain ⟨hconsistent, hset⟩ := edited_options_consistent edits
  have hok : unfit.set "size" (.int 3) =
      .ok (unfit.put "size" ⟨.int 0 5, .int 9, .int 3, "Size"⟩) := rfl
  obtain ⟨entry', hentry, -, hadmits⟩ := hset unfit _ "size" (.int 3) hok
  exact ⟨hlisted, hconsistent "step" entry hlisted, _, entry', hok, hentry, hadmits⟩

end OptionStore

end StrategyCoordinator
