import StrategyCoordinator.Options.Value

/-!
# Option kinds and the values they accept

The kind of an option says which values it accepts. Acceptance also brings a value into the
form in which the option holds it: an integer offered to an option of floating kind becomes
the nearest number, and a text offered to an option with listed choices becomes a choice.
A value that is not a number is outside every range, and so is every value when a bound is
not a number.
-/

namespace StrategyCoordinator

/-- The sort of value that an option or a reader expects. -/
inductive ValueSort
  | boolean
  | integer
  | float
  | string
  | enumeratedString
deriving DecidableEq

namespace ValueSort

/-- The name of a sort in error messages. -/
def text : ValueSort → String
  | .boolean => "boolean"
  | .integer => "integer"
  | .float => "float"
  | .string => "string"
  | .enumeratedString => "enumerated string"

end ValueSort

/-- Why an operation on the option store was refused. -/
inductive OptionError
  | unknownOption (name : String)
  | alreadyRegistered (name : String)
  | typeMismatch (name : String) (expected : ValueSort)
  | intOutOfRange (name : String) (value lower upper : Int64)
  | floatOutOfRange (name : String) (value lower upper : Binary64)
  | invalidChoice (name value : String) (valid : List String)
  | unset (name : String)
deriving DecidableEq

namespace OptionError

/-- The message for a value outside its range. -/
def outOfRangeMessage (name value lower upper : String) : String :=
  "Option Error: Value " ++ value ++ " for option '" ++ name ++ "' is outside [" ++ lower ++
    ", " ++ upper ++ "]."

/-- The message of an error. -/
def message : OptionError → String
  | .unknownOption name => "Option Error: Unknown option '" ++ name ++ "'."
  | .alreadyRegistered name => "Option Error: Option '" ++ name ++ "' is already registered."
  | .typeMismatch name expected =>
    "Option Error: Option '" ++ name ++ "' expects a " ++ expected.text ++ " value."
  | .intOutOfRange name value lower upper =>
    outOfRangeMessage name (toString value.toInt) (toString lower.toInt) (toString upper.toInt)
  | .floatOutOfRange name value lower upper =>
    outOfRangeMessage name value.positionalText lower.positionalText upper.positionalText
  | .invalidChoice name value valid =>
    "Option Error: '" ++ value ++ "' is not a valid value for option '" ++ name ++
      "'. Valid values: " ++ String.intercalate ", " valid ++ "."
  | .unset name => "Option Error: Option '" ++ name ++ "' has no value."

end OptionError

/-- What an option holds, with the constraints on its values. -/
inductive OptionKind
  | bool
  | int (lower upper : Int64)
  | float (lower upper : Binary64)
  | str
  | choice (values : List String)
deriving DecidableEq

namespace OptionKind

/-- The sort of value an option of this kind expects. -/
def sort : OptionKind → ValueSort
  | .bool => .boolean
  | .int _ _ => .integer
  | .float _ _ => .float
  | .str => .string
  | .choice _ => .enumeratedString

/-- Equality of kinds, with bounds compared as numbers. -/
def kindEq : OptionKind → OptionKind → Bool
  | .bool, .bool => true
  | .int a b, .int c d => a == c && b == d
  | .float a b, .float c d => a.numEq c && b.numEq d
  | .str, .str => true
  | .choice a, .choice b => a == b
  | _, _ => false

/-- Accept a number into a floating range. -/
def acceptFloat (name : String) (lower upper value : Binary64) : Except OptionError OptionValue :=
  if lower.numLe value && value.numLe upper then .ok (.float value)
  else .error (.floatOutOfRange name value lower upper)

/-- Accept an integer into an integer range. -/
def acceptInt (name : String) (lower upper value : Int64) : Except OptionError OptionValue :=
  if lower.toInt ≤ value.toInt ∧ value.toInt ≤ upper.toInt then .ok (.int value)
  else .error (.intOutOfRange name value lower upper)

/-- Accept a text as one of the listed choices. -/
def acceptChoice (name : String) (values : List String) (value : String) :
    Except OptionError OptionValue :=
  if value ∈ values then .ok (.choice value) else .error (.invalidChoice name value values)

/-- Accept a value under this kind, in the form in which an option holds it. -/
def accept (kind : OptionKind) (name : String) (value : OptionValue) :
    Except OptionError OptionValue :=
  match kind, value with
  | .bool, .bool value => .ok (.bool value)
  | .int lower upper, .int value => acceptInt name lower upper value
  | .float lower upper, .float value => acceptFloat name lower upper value
  | .float lower upper, .int value =>
    acceptFloat name lower upper (Binary64.ofInt value.toInt)
  | .str, .str value => .ok (.str value)
  | .choice values, .choice value => acceptChoice name values value
  | .choice values, .str (some value) => acceptChoice name values value
  | kind, _ => .error (.typeMismatch name kind.sort)

end OptionKind

end StrategyCoordinator
