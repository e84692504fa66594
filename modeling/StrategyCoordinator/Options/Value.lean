import StrategyCoordinator.Numeric.ShortestDecimal
import StrategyCoordinator.Text.Padding

/-!
# Option values

An option holds a boolean, an integer, a double-precision number, a text that may be absent,
or one of a list of choices. Two values are equal when they are of the same sort and equal in
that sort; numbers are compared as numbers, so the two zeros are equal and a value that is
not a number differs from itself.
-/

namespace StrategyCoordinator

/-- The value of an option. -/
inductive OptionValue
  | bool (value : Bool)
  | int (value : Int64)
  | float (value : Binary64)
  | str (value : Option String)
  | choice (value : String)
deriving DecidableEq

namespace OptionValue

/-- Equality of values, with numbers compared as numbers. -/
def valueEq : OptionValue → OptionValue → Bool
  | .bool a, .bool b => a == b
  | .int a, .int b => a == b
  | .float a, .float b => a.numEq b
  | .str a, .str b => a == b
  | .choice a, .choice b => a == b
  | _, _ => false

/-- The text of a value. -/
def text : OptionValue → String
  | .bool value => if value then "true" else "false"
  | .int value => toString value.toInt
  | .float value => value.scientificText
  | .str none => "(none)"
  | .str (some value) => value
  | .choice value => value

/-- The text of a value, cut and padded to a column. -/
def format (value : OptionValue) (column : Column) : String :=
  column.format value.text

end OptionValue

end StrategyCoordinator
