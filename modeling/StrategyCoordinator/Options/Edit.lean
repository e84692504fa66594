import StrategyCoordinator.Options.Store

/-!
# Edits of the option store

An edit registers, sets or resets one option. Applying an edit always gives a store: the
edited one, or the store before it together with the reason why the edit was refused.
-/

namespace StrategyCoordinator

/-- A change to one option of a store. -/
inductive StoreEdit
  | register (item : Registration)
  | set (name : String) (value : OptionValue)
  | reset (name : String)
deriving DecidableEq

namespace StoreEdit

/-- The name of the option that an edit is about. -/
def name : StoreEdit → String
  | .register item => item.name
  | .set name _ => name
  | .reset name => name

/-- The edited store, unless the edit is refused. -/
def result (edit : StoreEdit) (store : OptionStore) : Except OptionError OptionStore :=
  match edit with
  | .register item => store.register item
  | .set name value => store.set name value
  | .reset name => store.reset name

/-- Apply an edit; a refused one leaves the store as it was. -/
def apply (edit : StoreEdit) (store : OptionStore) : OptionStore × Except OptionError Unit :=
  match edit.result store with
  | .ok store => (store, .ok ())
  | .error e => (store, .error e)

end StoreEdit

end StrategyCoordinator
