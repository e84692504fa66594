import Mathlib.Data.List.Forall2
import StrategyCoordinator.Options.Table

/-!
# What is shown of values and stores

A value is shown in a column as the front part of its text that the precision leaves, with spaces
around it that fill the column up. A precision is the only thing that cuts, so a table, which has
none, shows every name, every value and every description in full. Names and values that fit into
their columns fill them exactly, so the descriptions next to them start at one place.
-/

namespace StrategyCoordinator

namespace Column

/-- A text as it is shown in a column: the part of it that is kept, with spaces before and after. -/
structure LaidOut (column : Column) (text shown kept : List Char) (before after : Nat) : Prop where
  /-- There is nothing but spaces around the part that is kept. -/
  surrounded : shown = List.replicate before ' ' ++ kept ++ List.replicate after ' '
  /-- The text is kept from its front. -/
  front : kept <+: text
  /-- Without a precision all of it is kept. -/
  whole : column.precision = none → kept = text
  /-- A precision is the number of characters that are kept, if there are as many. -/
  cut : ∀ precision, column.precision = some precision → kept.length = min precision text.length
  /-- The width is filled, unless what is kept is longer. -/
  filled : shown.length = max column.width kept.length
  left : column.alignment = .left → before = 0
  right : column.alignment = .right → after = 0
  /-- Of an odd number of spaces around a centred text the odd one stands after it. -/
  center : column.alignment = .center → after = before ∨ after = before + 1

/-- No more spaces stand before a text than there are. -/
theorem spacesBefore_le (alignment : Alignment) (spaces : Nat) :
    spacesBefore alignment spaces ≤ spaces := by
  cases alignment with
  | left => exact Nat.zero_le spaces
  | center => exact Nat.div_le_self spaces 2
  | right => exact Nat.le_refl spaces

/-- A column shows the part of a text that its precision leaves. -/
theorem laidOut_fill (column : Column) (text : List Char) :
    ∃ before after, column.LaidOut text (column.fill text) (column.cut text) before after := by
  refine ⟨_, _, rfl, ?_, fun h => ?_, fun precision h => ?_, ?_, fun h => ?_, fun h => ?_,
    fun h => ?_⟩
  · unfold cut
    cases column.precision with
    | none => exact List.prefix_rfl
    | some precision => exact List.take_prefix precision text
  · rw [cut, h]
  · rw [cut, h, List.length_take]
  · have hbefore := spacesBefore_le column.alignment (column.width - (column.cut text).length)
    simp only [fill, List.length_append, List.length_replicate]
    omega
  · rw [h, spacesBefore]
  · rw [h, spacesBefore, Nat.sub_self]
  · rw [h, spacesBefore]
    omega

/-- A column without a precision that aligns its texts on the left shows a text in full, with the
spaces after it that are missing to the width. -/
theorem format_eq_of_left (column : Column) (halignment : column.alignment = .left)
    (hprecision : column.precision = none) (text : String) :
    (column.format text).toList =
      text.toList ++ List.replicate (column.width - text.length) ' ' := by
  simp [format, fill, cut, hprecision, halignment, spacesBefore, String.length_toList]

end Column

namespace OptionEntry

/-- A row of the table that shows an option. -/
structure ShownBy (name : String) (entry : OptionEntry) (row : String) : Prop where
  /-- The row starts with a star if the value differs from the default, and else with a space. -/
  marker : row.toList.head? =
    some (if entry.value.valueEq entry.default = true then ' ' else '*')
  /-- After the marker the row has the name, the value and the description in full, with spaces
  between them. -/
  parts : ∃ afterName afterValue, row.toList.tail =
    name.toList ++ List.replicate (afterName + 1) ' ' ++ entry.value.text.toList ++
      List.replicate (afterValue + 1) ' ' ++ entry.description.toList
  /-- The description of an option with a short name and a short value starts at one place. -/
  aligned : name.length ≤ 24 → entry.value.text.length ≤ 12 → ∃ start,
    row.toList = start ++ entry.description.toList ∧ start.length = 39

/-- What stands in a row before the description. -/
def rowStart (name : String) (entry : OptionEntry) : List Char :=
  (if entry.isDefault = true then ' ' else '*') :: name.toList ++
    List.replicate (24 - name.length + 1) ' ' ++ entry.value.text.toList ++
      List.replicate (12 - entry.value.text.length + 1) ' '

/-- A row consists of what stands before the description, and the description. -/
theorem toList_row (name : String) (entry : OptionEntry) :
    (entry.row name).toList = entry.rowStart name ++ entry.description.toList := by
  have hname := nameColumn.format_eq_of_left rfl rfl name
  have hvalue := valueColumn.format_eq_of_left rfl rfl entry.value.text
  simp only [row, rowStart, OptionValue.format, String.toList_append, hname, hvalue,
    List.replicate_succ']
  cases entry.isDefault <;> simp [nameColumn, valueColumn]

/-- The row of an option shows it. -/
theorem shownBy_row (name : String) (entry : OptionEntry) :
    entry.ShownBy name (entry.row name) where
  marker := by
    rw [toList_row]
    rfl
  parts := by
    refine ⟨24 - name.length, 12 - entry.value.text.length, ?_⟩
    rw [toList_row]
    rfl
  aligned hname hvalue := by
    refine ⟨entry.rowStart name, toList_row name entry, ?_⟩
    simp only [rowStart, List.length_append, List.length_cons, List.length_replicate,
      String.length_toList]
    omega

end OptionEntry

namespace OptionStore

/-- The table is its header line, the rows of the options in their order, and its footer line. -/
theorem table_eq (store : OptionStore) : store.table = tableHeader ++ "\n" ++
    String.join ((store.toList.map fun item => item.2.row item.1).map (· ++ "\n")) ++
      tableFooter ++ "\n" := by
  simp [table, tableLines, String.join_cons, String.append_assoc]

/-- A value is shown by its text, and in a column by the front part of its text that the precision
leaves, with as many spaces around it as the width needs: after it if it stands on the left, as it
does if no alignment is given, before it if it stands on the right, and on both sides if it is
centred. The table of a store has one row for each option, in the order of the list, between its
header line and its footer line. A row marks a value that differs from the default, and shows the
name, the value and the description in full, and the descriptions of options with short names and
values start at the same place. -/
theorem values_and_options_shown :
    (∀ value : OptionValue, value.format {} = value.text) ∧
    (∀ (value : OptionValue) (column : Column), ∃ kept before after,
      column.LaidOut value.text.toList (value.format column).toList kept before after) ∧
    (∀ (value : OptionValue) width precision, value.format { width, precision } =
      value.format { width, precision, alignment := .left }) ∧
    ∀ store : OptionStore, ∃ rows : List String,
      store.table = tableHeader ++ "\n" ++ String.join (rows.map (· ++ "\n")) ++
        tableFooter ++ "\n" ∧
      List.Forall₂ (fun item row => item.2.ShownBy item.1 row) store.toList rows := by
  refine ⟨fun value => ?_, fun value column => ?_, fun _ _ _ => rfl, fun store => ?_⟩
  · have htext := Column.format_eq_of_left {} rfl rfl value.text
    exact String.toList_inj.mp (by simpa [OptionValue.format] using htext)
  · obtain ⟨before, after, hshown⟩ := column.laidOut_fill value.text.toList
    refine ⟨column.cut value.text.toList, before, after, ?_⟩
    rw [OptionValue.format, Column.format, String.toList_ofList]
    exact hshown
  · refine ⟨_, store.table_eq, ?_⟩
    rw [List.forall₂_map_right_iff, List.forall₂_same]
    exact fun item _ => item.2.shownBy_row item.1

/-- Cutting comes before filling, and both count characters. -/
example : (OptionValue.choice "größer").format
    { width := 7, alignment := .center, precision := some 4 } = " größ  " := by
  decide

end OptionStore

end StrategyCoordinator
