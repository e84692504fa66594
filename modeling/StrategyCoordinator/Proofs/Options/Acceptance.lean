import StrategyCoordinator.Options.Kind

/-!
# What a kind accepts

A kind admits certain values, each in the one form in which an option holds it. A value that is
offered is first brought into that form, which does not depend on whether it is admitted; it is
accepted exactly if its form is admitted, and then the form is what is held. So a value that was
accepted once is accepted again as it is.
-/

namespace StrategyCoordinator

namespace Binary64

/-- Numbers that are ordered are numbers. -/
theorem isNaN_of_numLe {x y : Binary64} (h : x.numLe y = true) :
    x.isNaN = false ∧ y.isNaN = false := by
  simp only [numLe, Bool.and_eq_true, Bool.not_eq_true'] at h
  exact h.1

end Binary64

/-- The sort of a value. -/
def OptionValue.sort : OptionValue → ValueSort
  | .bool _ => .boolean
  | .int _ => .integer
  | .float _ => .float
  | .str _ => .string
  | .choice _ => .enumeratedString

namespace OptionKind

/-- The values that an option of a kind may hold: those of its sort, within its range or among its
choices. -/
inductive Admits : OptionKind → OptionValue → Prop
  | bool (value : Bool) : Admits .bool (.bool value)
  | int {lower upper value : Int64} (hlower : lower.toInt ≤ value.toInt)
      (hupper : value.toInt ≤ upper.toInt) : Admits (.int lower upper) (.int value)
  | float {lower upper value : Binary64} (hlower : lower.numLe value = true)
      (hupper : value.numLe upper = true) : Admits (.float lower upper) (.float value)
  | str (value : Option String) : Admits .str (.str value)
  | choice {values : List String} {value : String} (h : value ∈ values) :
      Admits (.choice values) (.choice value)

/-- The form in which an option of a kind would hold a value that is offered to it. -/
def canonical : OptionKind → OptionValue → OptionValue
  | .float _ _, .int value => .float (Binary64.ofInt value.toInt)
  | .choice _, .str (some value) => .choice value
  | _, value => value

/-- An admitted value has the form in which it is held. -/
theorem Admits.canonical_eq {kind : OptionKind} {value : OptionValue} (h : kind.Admits value) :
    kind.canonical value = value := by
  cases h <;> rfl

/-- An admitted value is of the sort of the kind. -/
theorem Admits.sort_eq {kind : OptionKind} {value : OptionValue} (h : kind.Admits value) :
    value.sort = kind.sort := by
  cases h <;> rfl

/-- What an integer option holds is an integer within the range. -/
theorem Admits.exists_int {lower upper : Int64} {value : OptionValue}
    (h : (OptionKind.int lower upper).Admits value) : ∃ n, value = .int n ∧
      lower.toInt ≤ n.toInt ∧ n.toInt ≤ upper.toInt := by
  cases h with
  | int hlower hupper => exact ⟨_, rfl, hlower, hupper⟩

/-- What a floating option holds is a number within the range. -/
theorem Admits.exists_float {lower upper : Binary64} {value : OptionValue}
    (h : (OptionKind.float lower upper).Admits value) : ∃ x, value = .float x ∧
      lower.numLe x = true ∧ x.numLe upper = true := by
  cases h with
  | float hlower hupper => exact ⟨_, rfl, hlower, hupper⟩

/-- What an option with listed choices holds is one of them. -/
theorem Admits.exists_choice {values : List String} {value : OptionValue}
    (h : (OptionKind.choice values).Admits value) : ∃ text ∈ values, value = .choice text := by
  cases h with
  | choice hmem => exact ⟨_, hmem, rfl⟩

/-- What a text option holds is a text, or that there is none. -/
theorem Admits.exists_str {value : OptionValue} (h : OptionKind.str.Admits value) :
    ∃ text, value = .str text := by
  cases h with
  | str text => exact ⟨text, rfl⟩

/-- Integers are accepted within the range. -/
theorem acceptInt_eq_ok {name : String} {lower upper value : Int64} {held : OptionValue} :
    acceptInt name lower upper value = .ok held ↔
      held = .int value ∧ (int lower upper).Admits held := by
  unfold acceptInt
  constructor
  · intro h
    split at h
    next hrange =>
      cases h
      exact ⟨rfl, .int hrange.1 hrange.2⟩
    next => cases h
  · rintro ⟨rfl, h⟩
    cases h with
    | int hlower hupper => exact if_pos ⟨hlower, hupper⟩

/-- Numbers are accepted within the range. -/
theorem acceptFloat_eq_ok {name : String} {lower upper value : Binary64} {held : OptionValue} :
    acceptFloat name lower upper value = .ok held ↔
      held = .float value ∧ (float lower upper).Admits held := by
  unfold acceptFloat
  constructor
  · intro h
    split at h
    next hrange =>
      cases h
      rw [Bool.and_eq_true] at hrange
      exact ⟨rfl, .float hrange.1 hrange.2⟩
    next => cases h
  · rintro ⟨rfl, h⟩
    cases h with
    | float hlower hupper => simp [hlower, hupper]

/-- Texts are accepted among the choices. -/
theorem acceptChoice_eq_ok {name : String} {values : List String} {value : String}
    {held : OptionValue} :
    acceptChoice name values value = .ok held ↔
      held = .choice value ∧ (choice values).Admits held := by
  unfold acceptChoice
  constructor
  · intro h
    split at h
    next hmem =>
      cases h
      exact ⟨rfl, .choice hmem⟩
    next => cases h
  · rintro ⟨rfl, h⟩
    cases h with
    | choice hmem => exact if_pos hmem

/-- A value is accepted exactly if the form in which it would be held is admitted, and then that
form is held. -/
theorem accept_eq_ok {kind : OptionKind} {name : String} {value held : OptionValue} :
    kind.accept name value = .ok held ↔ held = kind.canonical value ∧ kind.Admits held := by
  have hmismatch {e : OptionError} (h : ¬kind.Admits value) :
      (Except.error e : Except OptionError OptionValue) = .ok held ↔
        held = value ∧ kind.Admits held := by
    constructor
    · nofun
    · rintro ⟨rfl, hadmits⟩
      exact absurd hadmits h
  cases kind with
  | bool =>
    cases value with
    | bool value =>
      constructor
      · rintro ⟨⟩
        exact ⟨rfl, .bool value⟩
      · rintro ⟨rfl, -⟩
        rfl
    | int | float | str | choice => exact hmismatch nofun
  | int lower upper =>
    cases value with
    | int value => exact acceptInt_eq_ok
    | bool | float | str | choice => exact hmismatch nofun
  | float lower upper =>
    cases value with
    | float value => exact acceptFloat_eq_ok
    | int value => exact acceptFloat_eq_ok
    | bool | str | choice => exact hmismatch nofun
  | str =>
    cases value with
    | str value =>
      constructor
      · rintro ⟨⟩
        exact ⟨rfl, .str value⟩
      · rintro ⟨rfl, -⟩
        rfl
    | bool | int | float | choice => exact hmismatch nofun
  | choice values =>
    cases value with
    | choice value => exact acceptChoice_eq_ok
    | str value =>
      cases value with
      | some value => exact acceptChoice_eq_ok
      | none => exact hmismatch nofun
    | bool | int | float => exact hmismatch nofun

/-- The values that are accepted as they are are the admitted ones. -/
theorem accept_self_iff {kind : OptionKind} {name : String} {value : OptionValue} :
    kind.accept name value = .ok value ↔ kind.Admits value := by
  rw [accept_eq_ok]
  exact ⟨And.right, fun h => ⟨h.canonical_eq.symm, h⟩⟩

/-- A value is accepted if and only if the form in which it would be held is admitted. -/
theorem accept_canonical_iff {kind : OptionKind} {name : String} {value : OptionValue} :
    kind.accept name value = .ok (kind.canonical value) ↔ kind.Admits (kind.canonical value) := by
  rw [accept_eq_ok]
  exact and_iff_right rfl

end OptionKind

end StrategyCoordinator
