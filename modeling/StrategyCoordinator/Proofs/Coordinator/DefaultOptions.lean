import StrategyCoordinator.Proofs.Options.Writing
import StrategyCoordinator.Solvers.Elementary

/-!
# Registering up to the first failure

Options are registered one after another until one of them is refused. What was registered before
it stays, and what comes after it is not looked at. So the options fall into two parts: those of the
first part are in the store, each at its default, and the first option of the second part, if there
is one, is refused because its name is taken by then or because its kind does not accept its
default. The default options are registered in this way, the coordinator's before those of the
backends.
-/

namespace StrategyCoordinator

namespace Registration

/-- The default of an option is one that its kind admits. -/
def Admissible (item : Registration) : Prop :=
  item.kind.Admits (item.kind.canonical item.default)

/-- Why an option is refused after others were registered in a store: its name is taken there or by
one of them, or else its kind does not accept its default. -/
inductive RefusedAfter (store : OptionStore) (earlier : List Registration) (item : Registration) :
    OptionError → Prop
  | taken (h : (store.entries.find? item.name).isSome = true ∨
      ∃ other ∈ earlier, other.name = item.name) :
      RefusedAfter store earlier item (.alreadyRegistered item.name)
  | unfit {e : OptionError} (hstore : store.entries.find? item.name = none)
      (hearlier : ∀ other ∈ earlier, other.name ≠ item.name)
      (h : item.kind.accept item.name item.default = .error e) :
      RefusedAfter store earlier item e

end Registration

namespace OptionStore

variable {store : OptionStore}

/-- What is found after an entry was put under a free name: what was found before, or the entry. -/
theorem find?_put_eq_some_iff {name other : String} {entry found : OptionEntry}
    (hfree : store.entries.find? name = none) :
    (store.put name entry).entries.find? other = some found ↔
      store.entries.find? other = some found ∨ name = other ∧ found = entry := by
  by_cases hother : other = name
  · subst hother
    simp [hfree, eq_comm]
  · rw [store.find?_put_of_ne entry hother]
    simp [Ne.symm hother]

/-- A name is free after an entry was put in exactly if it was free before and the entry is under
another name. -/
theorem find?_put_eq_none_iff {name other : String} {entry : OptionEntry} :
    (store.put name entry).entries.find? other = none ↔
      store.entries.find? other = none ∧ name ≠ other := by
  by_cases hother : other = name
  · subst hother
    simp
  · rw [store.find?_put_of_ne entry hother]
    exact (and_iff_left (Ne.symm hother)).symm

/-- An option is refused because its name is taken, or else because its default is not accepted. -/
theorem refusedAfter_of_register {item : Registration} {e : OptionError}
    (h : store.register item = .error e) : item.RefusedAfter store [] e := by
  cases hentry : store.entries.find? item.name with
  | some entry =>
    have hsome : (store.entries.find? item.name).isSome = true := hentry ▸ rfl
    rw [register_of_isSome hsome] at h
    cases h
    exact .taken (Or.inl hsome)
  | none =>
    have hcontains : store.entries.contains item.name = false := congrArg Option.isSome hentry
    simp only [register, hcontains, Bool.false_eq_true, if_false] at h
    obtain hdefault | ⟨default, -, hdefault⟩ := bind_eq_error.mp h
    · exact .unfit hentry (List.forall_mem_nil _) hdefault
    · cases hdefault

/-- What is refused after a first option and then some others were registered is refused after all
of them. -/
theorem refusedAfter_cons {first item : Registration} {earlier : List Registration}
    {e : OptionError} (h : item.RefusedAfter (store.put first.name first.entry) earlier e) :
    item.RefusedAfter store (first :: earlier) e := by
  cases h with
  | taken htaken =>
    refine .taken ?_
    rcases htaken with htaken | ⟨other, hother, hname⟩
    · by_cases hname : first.name = item.name
      · exact Or.inr ⟨first, List.mem_cons_self, hname⟩
      · rw [store.find?_put_of_ne first.entry (Ne.symm hname)] at htaken
        exact Or.inl htaken
    · exact Or.inr ⟨other, List.mem_cons_of_mem _ hother, hname⟩
  | unfit hstore hearlier haccept =>
    obtain ⟨hfree, hname⟩ := find?_put_eq_none_iff.mp hstore
    exact .unfit hfree (List.forall_mem_cons.mpr ⟨hname, hearlier⟩) haccept

/-- What came of registering options one after another, of which the first ones were registered and
the rest was not. -/
structure RegisteredUpTo (store : OptionStore) (done rest : List Registration)
    (result : OptionStore × Except OptionError Unit) : Prop where
  /-- No registered option took a name of the store. -/
  free : ∀ item ∈ done, store.entries.find? item.name = none
  /-- No two of them took the same name. -/
  distinct : (done.map Registration.name).Nodup
  /-- Their kinds admit their defaults. -/
  admissible : ∀ item ∈ done, item.Admissible
  /-- The store holds the entries that it held before, and each registered option at its default,
  and nothing else. -/
  entries : ∀ name entry, result.1.entries.find? name = some entry ↔
    store.entries.find? name = some entry ∨ ∃ item ∈ done, item.name = name ∧ entry = item.entry
  /-- If there is no rest, there is no error. -/
  completed : rest = [] → result.2 = .ok ()
  /-- Otherwise the error is the one of the first option of the rest. -/
  stopped : ∀ failing later, rest = failing :: later →
    ∃ e, failing.RefusedAfter store done e ∧ result.2 = .error e

namespace RegisteredUpTo

variable {done rest : List Registration} {result : OptionStore × Except OptionError Unit}

/-- If nothing is to be registered, the store stays as it is. -/
theorem nil : store.RegisteredUpTo [] [] (store, .ok ()) where
  free := nofun
  distinct := .nil
  admissible := nofun
  entries := by simp
  completed _ := rfl
  stopped := nofun

/-- If the first option is refused, the store stays as it is. -/
theorem refused {item : Registration} {e : OptionError} (h : store.register item = .error e) :
    store.RegisteredUpTo [] (item :: rest) (store, .error e) where
  free := nofun
  distinct := .nil
  admissible := nofun
  entries := by simp
  completed := nofun
  stopped failing later hrest := by
    cases hrest
    exact ⟨e, refusedAfter_of_register h, rfl⟩

/-- If the first option is registered, it comes before what is registered afterwards. -/
theorem cons {item : Registration} (hfree : store.entries.find? item.name = none)
    (hadmissible : item.Admissible)
    (h : (store.put item.name item.entry).RegisteredUpTo done rest result) :
    store.RegisteredUpTo (item :: done) rest result where
  free := List.forall_mem_cons.mpr
    ⟨hfree, fun other hother => (find?_put_eq_none_iff.mp (h.free other hother)).1⟩
  distinct := by
    refine List.nodup_cons.mpr ⟨fun hmem => ?_, h.distinct⟩
    obtain ⟨other, hother, hname⟩ := List.mem_map.mp hmem
    exact (find?_put_eq_none_iff.mp (h.free other hother)).2 hname.symm
  admissible := List.forall_mem_cons.mpr ⟨hadmissible, h.admissible⟩
  entries name entry := by
    rw [h.entries, find?_put_eq_some_iff hfree, or_assoc, List.exists_mem_cons_iff]
  completed := h.completed
  stopped failing later hrest := by
    obtain ⟨e, hrefused, hanswer⟩ := h.stopped failing later hrest
    exact ⟨e, refusedAfter_cons hrefused, hanswer⟩

/-- Without an error everything was registered. -/
theorem rest_eq_nil (h : store.RegisteredUpTo done rest result) (hok : result.2 = .ok ()) :
    rest = [] := by
  cases rest with
  | nil => rfl
  | cons failing later =>
    obtain ⟨e, -, hanswer⟩ := h.stopped failing later rfl
    rw [hanswer] at hok
    cases hok

/-- There is no error exactly if no name is taken, the names are distinct and the kinds admit the
defaults. -/
theorem answer_eq_ok_iff (h : store.RegisteredUpTo done rest result) :
    result.2 = .ok () ↔ (∀ item ∈ done ++ rest, store.entries.find? item.name = none) ∧
      ((done ++ rest).map Registration.name).Nodup ∧ ∀ item ∈ done ++ rest, item.Admissible := by
  constructor
  · intro hok
    rw [h.rest_eq_nil hok, List.append_nil]
    exact ⟨h.free, h.distinct, h.admissible⟩
  · rintro ⟨hfree, hdistinct, hadmissible⟩
    cases rest with
    | nil => exact h.completed rfl
    | cons failing later =>
      -- The first option of the rest would violate one of the three conditions.
      have hfailing : failing ∈ done ++ failing :: later :=
        List.mem_append_right done List.mem_cons_self
      obtain ⟨e, hrefused, -⟩ := h.stopped failing later rfl
      cases hrefused with
      | taken htaken =>
        rcases htaken with htaken | ⟨other, hother, hname⟩
        · rw [hfree failing hfailing] at htaken
          cases htaken
        · rw [List.map_append, List.nodup_append] at hdistinct
          obtain ⟨-, -, hapart⟩ := hdistinct
          exact absurd hname
            (hapart _ (List.mem_map_of_mem hother) _ (List.mem_map_of_mem List.mem_cons_self))
      | unfit _ _ haccept =>
        have haccepted : failing.kind.accept failing.name failing.default =
            .ok (failing.kind.canonical failing.default) :=
          OptionKind.accept_canonical_iff.mpr (hadmissible failing hfailing)
        rw [haccept] at haccepted
        cases haccepted

end RegisteredUpTo

/-- Options that are registered one after another are registered up to the first that fails. -/
theorem registeredUpTo_registerAll (store : OptionStore) (items : List Registration) :
    ∃ done rest, items = done ++ rest ∧
      store.RegisteredUpTo done rest (store.registerAll items) := by
  induction items generalizing store with
  | nil => exact ⟨[], [], rfl, .nil⟩
  | cons item items ih =>
    unfold registerAll
    cases hregister : store.register item with
    | error e => exact ⟨[], item :: items, rfl, .refused hregister⟩
    | ok next =>
      obtain ⟨hfree, hadmissible, rfl⟩ := register_eq_ok.mp hregister
      obtain ⟨done, rest, rfl, hrest⟩ := ih (store.put item.name item.entry)
      exact ⟨item :: done, rest, rfl, hrest.cons hfree hadmissible⟩

/-- Options that are registered after others are registered in the store that these leave, unless
there was an error before. -/
theorem registerAll_append (store : OptionStore) (first second : List Registration) :
    store.registerAll (first ++ second) = match store.registerAll first with
      | (store, .ok ()) => store.registerAll second
      | (store, .error e) => (store, .error e) := by
  induction first generalizing store with
  | nil => rfl
  | cons item first ih =>
    simp only [List.cons_append, registerAll]
    cases store.register item with
    | error e => rfl
    | ok next => exact ih next

end OptionStore

/-- The kinds of the coordinator's options admit their defaults. -/
theorem coordinatorOptions_admissible : ∀ item ∈ coordinatorOptions, item.Admissible := by
  have hchoice {name default description : String} {values : List String} (h : default ∈ values) :
      (Registration.choice name default values description).Admissible := .choice h
  simp only [coordinatorOptions, List.forall_mem_cons]
  exact ⟨hchoice (by decide), .str none, hchoice (by decide), .int (by decide) (by decide), nofun⟩

/-- What registers some options one after another, up to the first error. -/
def OptionRegistrar.Registers (registrar : OptionRegistrar) (items : List Registration) : Prop :=
  ∀ store, registrar store = store.registerAll items

namespace OptionStore

/-- The default options are the coordinator's and then those of the backends, registered one after
another. -/
theorem addDefaults_eq {registrar : OptionRegistrar} {items : List Registration}
    (hregistrar : registrar.Registers items) (store : OptionStore) :
    store.addDefaults registrar = store.registerAll (coordinatorOptions ++ items) := by
  rw [registerAll_append, addDefaults]
  obtain ⟨next, answer⟩ := store.registerAll coordinatorOptions
  cases answer with
  | ok => exact hregistrar next
  | error e => rfl

/-- A store that has a strategy option already is refused the default options and stays as it is. -/
theorem addDefaults_of_isSome {store : OptionStore}
    (h : (store.entries.find? OptionName.algorithm).isSome = true) (registrar : OptionRegistrar) :
    store.addDefaults registrar = (store, .error (.alreadyRegistered OptionName.algorithm)) := by
  simp only [addDefaults, coordinatorOptions, registerAll]
  rw [register_of_isSome h]
  rfl

/-- Let the options of the backends be some options that are registered one after another. Then the
default options are made without an error exactly if no name among the coordinator's options and
these is registered already, the names are distinct, and the kinds of the backends' options admit
their defaults. In any case the options are registered up to the first one that fails, with its
error, and the store holds what it held before and the options before that one, each at its
default. After a success the default options are refused for good, and nothing is changed. -/
theorem defaults_registered_up_to_failure {registrar : OptionRegistrar} {items : List Registration}
    (hregistrar : registrar.Registers items) (store : OptionStore) :
    let all := coordinatorOptions ++ items
    let result := store.addDefaults registrar
    (result.2 = .ok () ↔ (∀ item ∈ all, store.entries.find? item.name = none) ∧
      (all.map Registration.name).Nodup ∧ ∀ item ∈ items, item.Admissible) ∧
    (∃ done rest, all = done ++ rest ∧ store.RegisteredUpTo done rest result) ∧
    (result.2 = .ok () → ∀ again : OptionRegistrar, result.1.addDefaults again =
      (result.1, .error (.alreadyRegistered OptionName.algorithm))) := by
  intro all result
  obtain ⟨done, rest, hall, hupTo⟩ := store.registeredUpTo_registerAll all
  rw [← addDefaults_eq hregistrar] at hupTo
  have hok := hupTo.answer_eq_ok_iff
  rw [← hall] at hok
  have hadmissible : (∀ item ∈ all, item.Admissible) ↔ ∀ item ∈ items, item.Admissible := by
    rw [List.forall_mem_append]
    exact and_iff_right coordinatorOptions_admissible
  rw [hadmissible] at hok
  refine ⟨hok, ⟨done, rest, hall, hupTo⟩, fun hsuccess again => ?_⟩
  rw [hupTo.rest_eq_nil hsuccess, List.append_nil] at hall
  obtain ⟨item, hitem, hname⟩ :
      ∃ item ∈ all, item.name = OptionName.algorithm := ⟨_, List.mem_cons_self, rfl⟩
  have hfound := (hupTo.entries OptionName.algorithm item.entry).mpr
    (Or.inr ⟨item, hall ▸ hitem, hname, rfl⟩)
  exact addDefaults_of_isSome (Option.isSome_iff_exists.mpr ⟨item.entry, hfound⟩) again

/-- A store has a step size already. The elementary solvers that register a radius and then a step
size of their own are refused at the second, and the other five options are there. Those that
register only the radius are not refused, until they register it once more. -/
theorem step_size_registered_twice :
    let number (n : Int) := Binary64.ofInt n
    let step : Registration := .float "step" (number 1) (number 0) (number 4) "Step size"
    let radius : Registration := .float "tr_radius" (number 1) (number 0) (number 10) "Radius"
    let store := (empty.registerAll [step]).1
    let both := { ElementarySolvers.standard with options := [radius, step] }.kit.registerOptions
    let one := { ElementarySolvers.standard with options := [radius] }.kit.registerOptions
    both.Registers [radius, step] ∧ one.Registers [radius] ∧
      (store.addDefaults both).2 = .error (.alreadyRegistered "step") ∧
      (store.addDefaults both).1.toList.map Prod.fst = ["algorithm", "ip_checkpoint_file",
        "qn_subspace_size", "qn_type", "step", "tr_radius"] ∧
      (∃ done rest, coordinatorOptions ++ [radius, step] = done ++ rest ∧
        store.RegisteredUpTo done rest (store.addDefaults both)) ∧
      (store.addDefaults one).2 = .ok () ∧
      (store.addDefaults one).1.addDefaults one =
        ((store.addDefaults one).1, .error (.alreadyRegistered "algorithm")) := by
  intro number step radius store both one
  have hboth : both.Registers [radius, step] := fun _ => rfl
  have hone : one.Registers [radius] := fun _ => rfl
  obtain ⟨-, hupTo, -⟩ := defaults_registered_up_to_failure hboth store
  obtain ⟨hok, -, hagain⟩ := defaults_registered_up_to_failure hone store
  have hsuccess : (store.addDefaults one).2 = .ok () :=
    hok.mpr ⟨by decide, by decide, List.forall_mem_singleton.mpr (.float (by decide) (by decide))⟩
  exact ⟨hboth, hone, by decide, by decide, hupTo, hsuccess, hagain hsuccess one⟩

end OptionStore

end StrategyCoordinator
