import StrategyCoordinator.Proofs.Options.Writing

/-!
# The store as its history

What a store holds under a name can be told from the edits of that name that were accepted, in
their order. There are none as long as the name is free. The first one registers the option and
fixes its kind, its default and its description; the ones after it only set and reset it, and the
last of them alone decides the held value. Refused edits and edits of other names leave no trace.
-/

namespace StrategyCoordinator

namespace OptionStore

/-- The edits of a name that are accepted when edits are applied one after another. -/
def accepted (store : OptionStore) (name : String) : List StoreEdit → List StoreEdit
  | [] => []
  | edit :: rest =>
    if edit.name = name ∧ (edit.apply store).2 = .ok () then
      edit :: (edit.apply store).1.accepted name rest
    else (edit.apply store).1.accepted name rest

end OptionStore

/-- What an option holds that was registered and then set and reset: the form of the value that it
was set to last, unless it was reset after that or never set. -/
def Registration.heldAfter (item : Registration) (changes : List StoreEdit) : OptionValue :=
  match changes.getLast? with
  | some (.set _ value) => item.kind.canonical value
  | _ => item.kind.canonical item.default

/-- The entry of an option that was registered and then set and reset. -/
def Registration.entryAfter (item : Registration) (changes : List StoreEdit) : OptionEntry :=
  { item.entry with value := item.heldAfter changes }

/-- Setting the option last makes it hold the form of that value. -/
theorem Registration.entryAfter_set (item : Registration) (changes : List StoreEdit)
    (name : String) (value : OptionValue) :
    item.entryAfter (changes ++ [.set name value]) =
      (item.entryAfter changes).holding value := by
  simp only [entryAfter, heldAfter, List.getLast?_concat]
  rfl

/-- Resetting the option last makes it hold its default. -/
theorem Registration.entryAfter_reset (item : Registration) (changes : List StoreEdit)
    (name : String) :
    item.entryAfter (changes ++ [.reset name]) = (item.entryAfter changes).restored := by
  simp only [entryAfter, heldAfter, List.getLast?_concat]
  rfl

namespace StoreEdit

/-- What the accepted edits of a name amount to: nothing, or an option that was registered first
and then only set and reset. -/
inductive Amount : List StoreEdit → Option OptionEntry → Prop
  | nothing : Amount [] none
  | registered (item : Registration) {changes : List StoreEdit}
      (h : ∀ change ∈ changes, ∀ other, change ≠ .register other) :
      Amount (.register item :: changes) (some (item.entryAfter changes))

/-- Something is registered exactly if a registration was accepted. -/
theorem Amount.isSome_iff {edits : List StoreEdit} {entry : Option OptionEntry}
    (h : Amount edits entry) : entry.isSome = true ↔ ∃ item, .register item ∈ edits := by
  cases h with
  | nothing => simp
  | registered item => exact iff_of_true rfl ⟨item, List.mem_cons_self⟩

/-- Setting and resetting once more adds to what was done since the registration. -/
theorem Amount.change (item : Registration) {changes : List StoreEdit} {edit : StoreEdit}
    (h : ∀ change ∈ changes, ∀ other, change ≠ .register other)
    (hedit : ∀ other, edit ≠ .register other) :
    Amount (.register item :: (changes ++ [edit]))
      (some (item.entryAfter (changes ++ [edit]))) := by
  refine .registered item fun change hmem => ?_
  rcases List.mem_append.mp hmem with hmem | hmem
  · exact h change hmem
  · rwa [List.mem_singleton.mp hmem]

/-- One more accepted edit amounts to the entry that it writes. -/
theorem Amount.concat {edits : List StoreEdit} {before : Option OptionEntry}
    (h : Amount edits before) {edit : StoreEdit} {after : OptionEntry}
    (hwrites : edit.Writes before after) : Amount (edits ++ [edit]) (some after) := by
  cases h with
  | nothing =>
    cases hwrites with
    | @register item => exact .registered item nofun
  | registered item h =>
    cases hwrites with
    | @set name value =>
      rw [← item.entryAfter_set _ name value]
      exact change item h nofun
    | @reset name =>
      rw [← item.entryAfter_reset _ name]
      exact change item h nofun

end StoreEdit

namespace OptionStore

/-- One edit keeps the account of a name. -/
theorem amount_apply {store : OptionStore} {name : String} {told : List StoreEdit}
    (h : StoreEdit.Amount told (store.entries.find? name)) (edit : StoreEdit) :
    StoreEdit.Amount (told ++ store.accepted name [edit])
      ((edit.apply store).1.entries.find? name) := by
  by_cases hname : edit.name = name
  · subst hname
    obtain ⟨entry, hwrites, happly⟩ | ⟨e, -, happly⟩ := edit.apply_cases store
    · simpa [accepted, happly] using h.concat hwrites
    · simpa [accepted, happly] using h
  · rw [edit.find?_apply_of_ne store (Ne.symm hname)]
    simpa [accepted, hname] using h

/-- The accepted ones of a sequence of edits are those of its first edit and of the rest. -/
theorem accepted_cons (store : OptionStore) (name : String) (edit : StoreEdit)
    (rest : List StoreEdit) : store.accepted name (edit :: rest) =
      store.accepted name [edit] ++ (edit.apply store).1.accepted name rest := by
  simp only [accepted]
  split <;> rfl

/-- A sequence of edits keeps the account of a name. -/
theorem amount_applyAll {store : OptionStore} {name : String} {told : List StoreEdit}
    (h : StoreEdit.Amount told (store.entries.find? name)) (edits : List StoreEdit) :
    StoreEdit.Amount (told ++ store.accepted name edits)
      ((store.applyAll edits).entries.find? name) := by
  -- What was accepted so far is carried along, since each edit adds at its end.
  induction edits generalizing store told with
  | nil => simpa [accepted, applyAll] using h
  | cons edit rest ih =>
    rw [accepted_cons, ← List.append_assoc]
    exact ih (amount_apply h edit)

/-- A store that holds under a name what the accepted edits of the name amount to. -/
structure Recorded (store : OptionStore) (name : String) (told : List StoreEdit) : Prop where
  /-- The name is registered exactly if a registration was accepted. -/
  registered : (store.entries.find? name).isSome = true ↔ ∃ item, .register item ∈ told
  /-- The first accepted edit registered the option as it is, no later one registered it, and the
  last of them decides the held value. -/
  entry : ∀ entry, store.entries.find? name = some entry → ∃ item changes,
    told = .register item :: changes ∧
      (∀ change ∈ changes, ∀ other, change ≠ .register other) ∧
      entry.kind = item.kind ∧ entry.default = item.kind.canonical item.default ∧
      entry.description = item.description ∧ entry.value = item.heldAfter changes
  /-- A registered name is refused to every further registration. -/
  again : (store.entries.find? name).isSome = true → ∀ item : Registration, item.name = name →
    (StoreEdit.register item).apply store = (store, .error (.alreadyRegistered name))

/-- How one edit acts on a store. -/
structure Confined (store : OptionStore) (edit : StoreEdit) : Prop where
  /-- The edit is accepted exactly if there is an entry that it writes under its name. -/
  accepted : (edit.apply store).2 = .ok () ↔
    ∃ entry, edit.Writes (store.entries.find? edit.name) entry
  /-- A refused edit leaves the whole store. -/
  refused : ∀ e, (edit.apply store).2 = .error e → (edit.apply store).1 = store
  /-- The entries of the other names are left. -/
  others : ∀ other, other ≠ edit.name →
    (edit.apply store).1.entries.find? other = store.entries.find? other
  /-- Options that are registered stay the same options. -/
  same : ∀ name entry, store.entries.find? name = some entry →
    ∃ after, (edit.apply store).1.entries.find? name = some after ∧ entry.SameOption after

/-- Every edit is confined to the entry that it writes. -/
theorem confined (store : OptionStore) (edit : StoreEdit) : store.Confined edit where
  accepted := edit.apply_eq_ok_iff
  refused _ := edit.apply_of_error
  others _ := edit.find?_apply_of_ne store
  same _ _ := edit.sameOption_apply

/-- A store records what the accepted edits of a name amount to. -/
theorem recorded_of_amount {store : OptionStore} {name : String} {told : List StoreEdit}
    (h : StoreEdit.Amount told (store.entries.find? name)) : store.Recorded name told where
  registered := h.isSome_iff
  entry entry hentry := by
    rw [hentry] at h
    cases h with
    | @registered item changes hchanges => exact ⟨item, changes, rfl, hchanges, rfl, rfl, rfl, rfl⟩
  again hsome item hitem := by
    subst hitem
    simp only [StoreEdit.apply, StoreEdit.result, register_of_isSome hsome]

/-- In every store that was made by edits, accepted or refused, each name has what the accepted
edits of that name amount to, and whatever edits follow, a registered option stays the same option.
Every edit of any store is confined to the entry that it writes, and a refused one changes
nothing. -/
theorem edited_store_recorded (edits : List StoreEdit) :
    (∀ name, (empty.applyAll edits).Recorded name (empty.accepted name edits)) ∧
    (∀ name entry (later : List StoreEdit), (empty.applyAll edits).entries.find? name = some entry →
      ∃ after, (empty.applyAll (edits ++ later)).entries.find? name = some after ∧
        entry.SameOption after) ∧
    ∀ (store : OptionStore) (edit : StoreEdit), store.Confined edit := by
  refine ⟨fun name => ?_, fun name entry later hentry => ?_, confined⟩
  · have hstart : StoreEdit.Amount [] (empty.entries.find? name) := .nothing
    exact recorded_of_amount (amount_applyAll hstart edits)
  · rw [applyAll_append]
    exact sameOption_applyAll hentry later

/-- A step size is set before it is registered, which is refused, as are its second registration
and a value that is not a number. Of the edits that are accepted the last sets it to the integer
two, so it holds the floating number two. -/
theorem step_size_recorded :
    let number (n : Int) := Binary64.ofInt n
    let item := Registration.float "step" (number 1) (number 0) (number 4) "Step size"
    let unfit : StoreEdit := .set "step" (.float .nan)
    let edits : List StoreEdit :=
      [.set "step" (.int 3), .register item, .register (.bool "step" true "Whether to step"),
        .set "step" (.float (number 3)), .reset "step", .set "step" (.int 2), unfit]
    let told : List StoreEdit :=
      [.register item, .set "step" (.float (number 3)), .reset "step", .set "step" (.int 2)]
    let store := empty.applyAll edits
    let entry : OptionEntry := ⟨.float (number 0) (number 4), .float (number 1),
      .float (number 2), "Step size"⟩
    store.entries.find? "step" = some entry ∧ store.Recorded "step" told ∧
      (StoreEdit.register item).apply store = (store, .error (.alreadyRegistered "step")) ∧
      (unfit.apply store).1 = store ∧
      ∃ after, (empty.applyAll (edits ++ [.reset "step"])).entries.find? "step" = some after ∧
        entry.SameOption after := by
  intro number item unfit edits told store entry
  obtain ⟨hrecorded, hstays, hconfined⟩ := edited_store_recorded edits
  have htold : empty.accepted "step" edits = told := by decide
  have hentry : store.entries.find? "step" = some entry := by decide
  have hunfit : (unfit.apply store).2 =
      .error (.floatOutOfRange "step" .nan (number 0) (number 4)) := by decide
  have hstep : store.Recorded "step" told := htold ▸ hrecorded "step"
  exact ⟨hentry, hstep, hstep.again (hentry ▸ rfl) item rfl,
    (hconfined store unfit).refused _ hunfit, hstays "step" entry [.reset "step"] hentry⟩

end OptionStore

end StrategyCoordinator
