import StrategyCoordinator.NameMap
import StrategyCoordinator.Options.Kind

/-!
# The option store

An option is registered once, with a kind, a default value and a description, and holds its
default until it is set. Setting accepts the new value under the option's kind. An operation
that is refused has no store as its result, so the store before it simply stays in use.

Readers look at the held value alone and setters at the kind alone. The two agree on every
store made by registering and setting; a store that was read from bytes may hold anything.
-/

namespace StrategyCoordinator

/-- A registered option. -/
structure OptionEntry where
  kind : OptionKind
  default : OptionValue
  value : OptionValue
  description : String
deriving DecidableEq

namespace OptionEntry

/-- Whether the option holds its default. -/
def isDefault (entry : OptionEntry) : Bool :=
  entry.value.valueEq entry.default

/-- Equality of entries, with numbers compared as numbers. -/
def entryEq (a b : OptionEntry) : Bool :=
  a.kind.kindEq b.kind && a.default.valueEq b.default && a.value.valueEq b.value &&
    a.description == b.description

end OptionEntry

/-- An option as it is offered for registration. -/
structure Registration where
  name : String
  kind : OptionKind
  default : OptionValue
  description : String
deriving DecidableEq

namespace Registration

/-- A boolean option. -/
def bool (name : String) (default : Bool) (description : String) : Registration :=
  ⟨name, .bool, .bool default, description⟩

/-- An integer option with a range. -/
def int (name : String) (default lower upper : Int64) (description : String) : Registration :=
  ⟨name, .int lower upper, .int default, description⟩

/-- A floating option with a range. -/
def float (name : String) (default lower upper : Binary64) (description : String) :
    Registration :=
  ⟨name, .float lower upper, .float default, description⟩

/-- A text option, possibly without a default text. -/
def str (name : String) (default : Option String) (description : String) : Registration :=
  ⟨name, .str, .str default, description⟩

/-- An option with listed choices. -/
def choice (name : String) (default : String) (values : List String) (description : String) :
    Registration :=
  ⟨name, .choice values, .choice default, description⟩

end Registration

/-- A store of options, listed in name order. -/
structure OptionStore where
  entries : NameMap OptionEntry
deriving DecidableEq

namespace OptionStore

/-- The store without options. -/
def empty : OptionStore :=
  ⟨.empty⟩

/-- The registered option of a name. -/
def entry? (store : OptionStore) (name : String) : Option OptionEntry :=
  store.entries.find? name

/-- The registered options in name order. -/
def toList (store : OptionStore) : List (String × OptionEntry) :=
  store.entries.entries

/-- The number of registered options. -/
def size (store : OptionStore) : Nat :=
  store.entries.size

/-- Equality of stores: the same names with equal entries. -/
def storeEq (a b : OptionStore) : Bool :=
  a.size == b.size &&
    (a.toList.zip b.toList).all fun pair =>
      pair.1.1 == pair.2.1 && pair.1.2.entryEq pair.2.2

/-- Register a new option; its name must be free and its default acceptable. -/
def register (store : OptionStore) (item : Registration) : Except OptionError OptionStore := do
  if store.entries.contains item.name then
    throw (.alreadyRegistered item.name)
  let default ← item.kind.accept item.name item.default
  return ⟨store.entries.insert item.name ⟨item.kind, default, default, item.description⟩⟩

/-- Register options one after another; the first error stops, and what came before it stays. -/
def registerAll (store : OptionStore) : List Registration → OptionStore × Except OptionError Unit
  | [] => (store, .ok ())
  | item :: rest =>
    match store.register item with
    | .ok store => store.registerAll rest
    | .error e => (store, .error e)

/-- The registered option of a name, or the error that there is none. -/
def lookup (store : OptionStore) (name : String) : Except OptionError OptionEntry :=
  match store.entry? name with
  | some entry => .ok entry
  | none => .error (.unknownOption name)

/-- Set the value of an option. -/
def set (store : OptionStore) (name : String) (value : OptionValue) :
    Except OptionError OptionStore := do
  let entry ← store.lookup name
  let value ← entry.kind.accept name value
  return ⟨store.entries.insert name { entry with value := value }⟩

/-- Set an option back to its default. -/
def reset (store : OptionStore) (name : String) : Except OptionError OptionStore := do
  let entry ← store.lookup name
  return ⟨store.entries.insert name { entry with value := entry.default }⟩

/-- The value of a boolean option. -/
def getBool (store : OptionStore) (name : String) : Except OptionError Bool := do
  match (← store.lookup name).value with
  | .bool value => return value
  | _ => throw (.typeMismatch name .boolean)

/-- The value of an integer option. -/
def getInt (store : OptionStore) (name : String) : Except OptionError Int64 := do
  match (← store.lookup name).value with
  | .int value => return value
  | _ => throw (.typeMismatch name .integer)

/-- The value of a floating option. -/
def getFloat (store : OptionStore) (name : String) : Except OptionError Binary64 := do
  match (← store.lookup name).value with
  | .float value => return value
  | _ => throw (.typeMismatch name .float)

/-- The text of an option that holds a text or a choice, if it has one. -/
def getStr (store : OptionStore) (name : String) : Except OptionError (Option String) := do
  match (← store.lookup name).value with
  | .str value => return value
  | .choice value => return some value
  | _ => throw (.typeMismatch name .string)

/-- The text of an option that must have one. -/
def getChoice (store : OptionStore) (name : String) : Except OptionError String := do
  match ← store.getStr name with
  | some value => return value
  | none => throw (.unset name)

end OptionStore

end StrategyCoordinator
