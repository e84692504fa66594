import StrategyCoordinator.Binary.Options
import StrategyCoordinator.Options.Table
import StrategyCoordinator.Proofs.Options.Writing

/-!
# Operations on different names do not interfere

An operation on the option of a name looks at the entry of that name and changes no other one. So
the answers about a name, and the entry that is there in the end, depend on the operations on that
name and on their order alone. Two sequences of operations that agree on each name, however they
interleave the names, therefore give the same answers and the same store: a store is determined by
its entries, and it lists them in name order, whichever was made first.
-/

namespace StrategyCoordinator

/-- What can be asked about the option of a name. -/
inductive StoreQuestion
  | contains
  | entry
  | bool
  | int
  | float
  | str
  | choice
deriving DecidableEq

/-- What an operation on an option answers. -/
inductive StoreAnswer
  | edited (answer : Except OptionError Unit)
  | contained (answer : Bool)
  | entry (answer : Option OptionEntry)
  | bool (answer : Except OptionError Bool)
  | int (answer : Except OptionError Int64)
  | float (answer : Except OptionError Binary64)
  | str (answer : Except OptionError (Option String))
  | choice (answer : Except OptionError String)
deriving DecidableEq

/-- The answer to a question about the option of a name. -/
def OptionStore.answer (store : OptionStore) (name : String) : StoreQuestion → StoreAnswer
  | .contains => .contained (store.entries.contains name)
  | .entry => .entry (store.entry? name)
  | .bool => .bool (store.getBool name)
  | .int => .int (store.getInt name)
  | .float => .float (store.getFloat name)
  | .str => .str (store.getStr name)
  | .choice => .choice (store.getChoice name)

/-- An operation on the option of a name: an edit, or a question, which leaves the store. -/
inductive StoreOperation
  | change (edit : StoreEdit)
  | ask (name : String) (question : StoreQuestion)
deriving DecidableEq

namespace StoreOperation

/-- The name that an operation is about. -/
def name : StoreOperation → String
  | .change edit => edit.name
  | .ask name _ => name

/-- The store after an operation, and what it answers. -/
def perform (operation : StoreOperation) (store : OptionStore) : OptionStore × StoreAnswer :=
  match operation with
  | .change edit => ((edit.apply store).1, .edited (edit.apply store).2)
  | .ask name question => (store, store.answer name question)

end StoreOperation

namespace OptionStore

/-- Perform operations one after another. -/
def performAll (store : OptionStore) : List StoreOperation → OptionStore
  | [] => store
  | operation :: rest => (operation.perform store).1.performAll rest

/-- Operations that are performed one after another, each with its answer. -/
def transcript (store : OptionStore) : List StoreOperation → List (StoreOperation × StoreAnswer)
  | [] => []
  | operation :: rest =>
    (operation, (operation.perform store).2) :: (operation.perform store).1.transcript rest

end OptionStore

namespace StoreEdit

/-- What an edit makes of the entry under its name: another entry, or an error. -/
def outcome : StoreEdit → Option OptionEntry → Except OptionError OptionEntry
  | .register item, none => do
    let default ← item.kind.accept item.name item.default
    return ⟨item.kind, default, default, item.description⟩
  | .register item, some _ => .error (.alreadyRegistered item.name)
  | .set name _, none => .error (.unknownOption name)
  | .set name value, some entry => do
    let value ← entry.kind.accept name value
    return { entry with value := value }
  | .reset name, none => .error (.unknownOption name)
  | .reset _, some entry => .ok entry.restored

/-- An edit looks at the entry under its name alone, and puts its outcome there. -/
theorem result_eq (edit : StoreEdit) (store : OptionStore) : edit.result store =
    (edit.outcome (store.entries.find? edit.name)).map (store.put edit.name) := by
  cases edit with
  | register item =>
    show store.register item = (outcome _ (store.entries.find? item.name)).map _
    cases hentry : store.entries.find? item.name with
    | some entry =>
      exact OptionStore.register_of_isSome (hentry ▸ rfl)
    | none =>
      have hcontains : store.entries.contains item.name = false := congrArg Option.isSome hentry
      simp only [OptionStore.register, hcontains, outcome]
      cases item.kind.accept item.name item.default <;> rfl
  | set name value =>
    show store.set name value = (outcome _ (store.entries.find? name)).map _
    simp only [OptionStore.set, OptionStore.lookup, OptionStore.entry?]
    cases store.entries.find? name with
    | none => rfl
    | some entry =>
      show (entry.kind.accept name value >>= _) = (entry.kind.accept name value >>= _).map _
      cases entry.kind.accept name value <;> rfl
  | reset name =>
    show store.reset name = (outcome _ (store.entries.find? name)).map _
    simp only [OptionStore.reset, OptionStore.lookup, OptionStore.entry?]
    cases store.entries.find? name <;> rfl

/-- Where the entry under its name is the same, an edit has the same answer and leaves the same
entry there. -/
theorem apply_congr {edit : StoreEdit} {store store' : OptionStore}
    (h : store.entries.find? edit.name = store'.entries.find? edit.name) :
    (edit.apply store).2 = (edit.apply store').2 ∧
      (edit.apply store).1.entries.find? edit.name =
        (edit.apply store').1.entries.find? edit.name := by
  simp only [apply, result_eq, h]
  cases edit.outcome (store'.entries.find? edit.name) with
  | error e => exact ⟨rfl, h⟩
  | ok entry => exact ⟨rfl, by simp [Except.map]⟩

end StoreEdit

namespace OptionStore

/-- Questions about a name are answered from the entry under it. -/
theorem answer_congr {store store' : OptionStore} {name : String}
    (h : store.entries.find? name = store'.entries.find? name) (question : StoreQuestion) :
    store.answer name question = store'.answer name question := by
  have hlookup : store.lookup name = store'.lookup name := by
    simp only [lookup, entry?, h]
  cases question <;>
    simp only [answer, NameMap.contains, entry?, getBool, getInt, getFloat, getStr, getChoice,
      hlookup, h]

end OptionStore

namespace StoreOperation

/-- An operation leaves the entries of the other names. -/
theorem find?_perform_of_ne (operation : StoreOperation) (store : OptionStore) {other : String}
    (h : other ≠ operation.name) :
    (operation.perform store).1.entries.find? other = store.entries.find? other := by
  cases operation with
  | change edit => exact edit.find?_apply_of_ne store h
  | ask name question => rfl

/-- Where the entry under its name is the same, an operation has the same answer and leaves the same
entry there. -/
theorem perform_congr {operation : StoreOperation} {store store' : OptionStore}
    (h : store.entries.find? operation.name = store'.entries.find? operation.name) :
    (operation.perform store).2 = (operation.perform store').2 ∧
      (operation.perform store).1.entries.find? operation.name =
        (operation.perform store').1.entries.find? operation.name := by
  cases operation with
  | change edit =>
    obtain ⟨hanswer, hentry⟩ := StoreEdit.apply_congr h
    exact ⟨congrArg StoreAnswer.edited hanswer, hentry⟩
  | ask name question => exact ⟨OptionStore.answer_congr h question, h⟩

/-- The operations on a name, in their order. -/
def on (name : String) (operations : List StoreOperation) : List StoreOperation :=
  operations.filter fun operation => operation.name = name

end StoreOperation

namespace OptionStore

/-- The answers to the operations on a name, in their order. -/
def answersOn (store : OptionStore) (name : String) (operations : List StoreOperation) :
    List (StoreOperation × StoreAnswer) :=
  (store.transcript operations).filter fun entry => entry.1.name = name

/-- What is answered about a name, and the entry that is there in the end, is the same if only the
operations on that name are performed. -/
theorem performAll_on {store store' : OptionStore} {name : String}
    (h : store.entries.find? name = store'.entries.find? name)
    (operations : List StoreOperation) :
    store.answersOn name operations = store'.transcript (StoreOperation.on name operations) ∧
      (store.performAll operations).entries.find? name =
        (store'.performAll (StoreOperation.on name operations)).entries.find? name := by
  induction operations generalizing store store' with
  | nil => exact ⟨rfl, h⟩
  | cons operation rest ih =>
    by_cases hname : operation.name = name
    · subst hname
      obtain ⟨hanswer, hentry⟩ := StoreOperation.perform_congr h
      obtain ⟨hanswers, hfinal⟩ := ih hentry
      have hon : StoreOperation.on operation.name (operation :: rest) =
          operation :: StoreOperation.on operation.name rest := by
        simp [StoreOperation.on]
      rw [hon]
      refine ⟨?_, hfinal⟩
      rw [transcript, ← hanswers, ← hanswer]
      simp [answersOn, transcript]
    · have hon : StoreOperation.on name (operation :: rest) = StoreOperation.on name rest := by
        simp [StoreOperation.on, hname]
      rw [hon]
      have hentry := operation.find?_perform_of_ne store (Ne.symm hname)
      obtain ⟨hanswers, hfinal⟩ := ih (hentry.trans h)
      refine ⟨?_, hfinal⟩
      rw [← hanswers]
      simp [answersOn, transcript, hname]

/-- The registered names, as they are listed. -/
def names (store : OptionStore) : List String :=
  store.toList.map Prod.fst

/-- The listed names are those under which an entry is found. -/
theorem mem_names {store : OptionStore} {name : String} :
    name ∈ store.names ↔ (store.entries.find? name).isSome = true := by
  rw [Option.isSome_iff_exists, names, List.mem_map]
  constructor
  · rintro ⟨⟨name, entry⟩, hmem, rfl⟩
    exact ⟨entry, mem_toList.mp hmem⟩
  · rintro ⟨entry, hentry⟩
    exact ⟨(name, entry), mem_toList.mpr hentry, rfl⟩

/-- Names are listed in strictly ascending order. -/
theorem names_ascending (store : OptionStore) : store.names.Pairwise NameBefore :=
  List.pairwise_map.mpr store.entries.ascending

/-- No name is listed twice. -/
theorem names_nodup (store : OptionStore) : store.names.Nodup := by
  refine store.names_ascending.imp fun {a b} hbefore heq => ?_
  subst heq
  exact NameBefore.irrefl a hbefore

/-- Putting an entry under a name lists it, and lists no other name that was not listed before. -/
theorem mem_names_put {store : OptionStore} {name other : String} {entry : OptionEntry} :
    other ∈ (store.put name entry).names ↔ other ∈ store.names ∨ other = name := by
  rw [mem_names, mem_names]
  by_cases hother : other = name
  · subst hother
    simp
  · rw [store.find?_put_of_ne entry hother]
    exact (or_iff_left hother).symm

/-- Putting an entry under a free name adds the name to those that are listed. -/
theorem names_put_of_none {store : OptionStore} {name : String}
    (h : store.entries.find? name = none) (entry : OptionEntry) :
    (store.put name entry).names.Perm (store.names ++ [name]) := by
  have hfree : name ∉ store.names := by
    simp [mem_names, h]
  have hnodup : (store.names ++ [name]).Nodup :=
    List.nodup_append.mpr ⟨store.names_nodup, List.nodup_singleton name, fun a ha b hb =>
      List.mem_singleton.mp hb ▸ fun heq => hfree (heq ▸ ha)⟩
  refine (List.perm_ext_iff_of_nodup (names_nodup _) hnodup).mpr fun other => ?_
  rw [mem_names_put, List.mem_append, List.mem_singleton]

/-- Putting an entry under a taken name leaves the listed names. -/
theorem names_put_of_some {store : OptionStore} {name : String} {before : OptionEntry}
    (h : store.entries.find? name = some before) (entry : OptionEntry) :
    (store.put name entry).names.Perm store.names := by
  have hlisted : name ∈ store.names := mem_names.mpr (Option.isSome_iff_exists.mpr ⟨before, h⟩)
  refine (List.perm_ext_iff_of_nodup (names_nodup _) store.names_nodup).mpr fun other => ?_
  rw [mem_names_put]
  exact or_iff_left_of_imp fun hname => hname ▸ hlisted

end OptionStore

namespace StoreOperation

/-- The name that an operation registered with success, if it did. -/
def registered? : StoreOperation × StoreAnswer → Option String
  | (.change (.register item), .edited (.ok _)) => some item.name
  | _ => none

/-- An operation adds to the listed names the one that it registers, if it does. -/
theorem names_perform (operation : StoreOperation) (store : OptionStore) :
    (operation.perform store).1.names.Perm
      (store.names ++ (registered? (operation, (operation.perform store).2)).toList) := by
  cases operation with
  | ask name question => simp [perform, registered?]
  | change edit =>
    simp only [perform]
    obtain ⟨entry, hwrites, happly⟩ | ⟨e, -, happly⟩ := edit.apply_cases store
    · rw [happly]
      generalize hbefore : store.entries.find? edit.name = before at hwrites
      cases hwrites with
      | @register item => exact OptionStore.names_put_of_none hbefore item.entry
      | set | reset =>
        rw [show registered? _ = none from rfl, Option.toList_none, List.append_nil]
        exact OptionStore.names_put_of_some hbefore _
    · have hnone : registered? (.change edit, .edited (.error e)) = none := by
        cases edit <;> rfl
      simp [happly, hnone]

/-- Two sequences of operations with the same operations on each name, in the same order. -/
def SameOnEachName (first second : List StoreOperation) : Prop :=
  ∀ name, on name first = on name second

/-- Registrations of distinct names are the same on each name in every order. -/
theorem sameOnEachName_of_perm {first second : List Registration} (hperm : first.Perm second)
    (hdistinct : (first.map Registration.name).Nodup) :
    SameOnEachName (first.map fun item => .change (.register item))
      (second.map fun item => .change (.register item)) := by
  intro name
  -- No two operations are on the same name, so at most one of them is on this one.
  have hapart (items : List Registration) (h : (items.map Registration.name).Nodup) :
      (on name (items.map fun item => .change (.register item))).Pairwise
        fun a b => a.name ≠ b.name := by
    refine List.Pairwise.filter _ (List.pairwise_map.mpr ?_)
    exact List.pairwise_map.mp h
  have hon {items : List StoreOperation} {operation : StoreOperation}
      (h : operation ∈ on name items) : operation.name = name := by
    simpa using (List.mem_filter.mp h).2
  refine List.Perm.eq_of_pairwise (fun a b ha hb hab _ => ?_) (hapart first hdistinct)
    (hapart second ((hperm.map _).nodup_iff.mp hdistinct)) ((hperm.map _).filter _)
  exact absurd ((hon ha).trans (hon hb).symm) hab

end StoreOperation

namespace OptionStore

/-- After a sequence of operations those names are listed that were listed before, and those that
were registered with success. -/
theorem names_performAll (store : OptionStore) (operations : List StoreOperation) :
    (store.performAll operations).names.Perm
      (store.names ++ (store.transcript operations).filterMap StoreOperation.registered?) := by
  induction operations generalizing store with
  | nil => simp [performAll, transcript]
  | cons operation rest ih =>
    have hfirst := operation.names_perform store
    have hrest := ih (operation.perform store).1
    refine hrest.trans ((hfirst.append_right _).trans ?_)
    rw [List.append_assoc, transcript, List.filterMap_cons]
    cases StoreOperation.registered? (operation, (operation.perform store).2) <;> rfl

/-- Two sequences of operations that have, for each name, the same operations on that name in the
same order give the same answers to corresponding operations and the same store, with the same
list, table and bytes. So do registrations of distinct names in any order. The list of a store that
was made by operations has the names that were registered with success, each once, in the order of
their UTF-8 bytes, and its size is their number. -/
theorem independent_of_interleaving :
    (∀ (store : OptionStore) (first second : List StoreOperation),
      StoreOperation.SameOnEachName first second →
        (∀ name, store.answersOn name first = store.answersOn name second) ∧
        store.performAll first = store.performAll second ∧
        (store.performAll first).toList = (store.performAll second).toList ∧
        (store.performAll first).table = (store.performAll second).table ∧
        OptionStore.binary.bytes (store.performAll first) =
          OptionStore.binary.bytes (store.performAll second)) ∧
    (∀ first second : List Registration, first.Perm second →
      (first.map Registration.name).Nodup →
        StoreOperation.SameOnEachName (first.map fun item => .change (.register item))
          (second.map fun item => .change (.register item))) ∧
    ∀ operations : List StoreOperation,
      let store := empty.performAll operations
      let registered := (empty.transcript operations).filterMap StoreOperation.registered?
      store.names.Pairwise (fun a b => utf8Bytes a < utf8Bytes b) ∧
        store.names.Perm registered ∧ store.size = registered.length := by
  refine ⟨fun store first second hsame => ?_,
    fun first second => StoreOperation.sameOnEachName_of_perm, fun operations => ?_⟩
  · have hstore : store.performAll first = store.performAll second := by
      refine congrArg mk (NameMap.ext_find? fun name => ?_)
      rw [(performAll_on rfl first).2, (performAll_on rfl second).2, hsame name]
    refine ⟨fun name => ?_, hstore, hstore ▸ rfl, hstore ▸ rfl, hstore ▸ rfl⟩
    rw [(performAll_on rfl first).1, (performAll_on rfl second).1, hsame name]
  · intro store registered
    have hperm : store.names.Perm registered := empty.names_performAll operations
    refine ⟨store.names_ascending, hperm, ?_⟩
    rw [← hperm.length_eq, names, List.length_map]
    rfl

/-- A size and a kind are registered, set, asked for and registered once more, some of it refused,
in two interleavings: first all that concerns the size, or with the kind in between. -/
theorem two_interleavings_agree :
    let size : Registration := .int "größe" 10 0 1000 "The size"
    let kind : Registration := .choice "kind" "bfgs" ["bfgs", "sr1"] "The kind"
    let first : List StoreOperation := [.change (.register size),
      .change (.set "größe" (.int 5000)), .change (.set "größe" (.int 20)), .ask "größe" .int,
      .change (.register size), .ask "kind" .str, .change (.register kind),
      .change (.set "kind" (.str (some "sr1")))]
    let second : List StoreOperation := [.ask "kind" .str, .change (.register size),
      .change (.register kind), .change (.set "größe" (.int 5000)),
      .change (.set "kind" (.str (some "sr1"))), .change (.set "größe" (.int 20)),
      .ask "größe" .int, .change (.register size)]
    StoreOperation.SameOnEachName first second ∧
      empty.answersOn "größe" first = empty.answersOn "größe" second ∧
      empty.performAll first = empty.performAll second ∧
      (empty.performAll first).names = ["größe", "kind"] ∧ (empty.performAll second).size = 2 ∧
      StoreOperation.SameOnEachName ([kind, size].map fun item => .change (.register item))
        ([size, kind].map fun item => .change (.register item)) := by
  intro size kind first second
  obtain ⟨hagree, hpermuted, hlisted⟩ := independent_of_interleaving
  have hsame : StoreOperation.SameOnEachName first second := by
    intro name
    by_cases hsize : "größe" = name
    · subst hsize
      decide
    · by_cases hkind : "kind" = name
      · subst hkind
        decide
      · simp [StoreOperation.on, StoreOperation.name, StoreEdit.name, first, second, size, kind,
          Registration.int, Registration.choice, hsize, hkind]
  obtain ⟨hanswers, hstore, -⟩ := hagree empty first second hsame
  obtain ⟨-, -, hsize⟩ := hlisted second
  exact ⟨hsame, hanswers "größe", hstore, by decide, hsize,
    hpermuted [kind, size] [size, kind] (List.Perm.swap size kind []) (by decide)⟩

end OptionStore

end StrategyCoordinator
