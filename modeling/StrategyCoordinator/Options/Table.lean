import StrategyCoordinator.Options.Store

/-!
# The option table

The table of a store has a header line, one row for each option in name order, and a footer
line. A row starts with a star when the option does not hold its default, and shows the name,
the value and the description. Names and values are padded to their columns and never cut.
-/

namespace StrategyCoordinator

namespace OptionEntry

/-- The column of option names. -/
def nameColumn : Column :=
  { width := 24 }

/-- The column of option values. -/
def valueColumn : Column :=
  { width := 12 }

/-- The row of an option in the table. -/
def row (name : String) (entry : OptionEntry) : String :=
  (if entry.isDefault then " " else "*") ++ nameColumn.format name ++ " " ++
    entry.value.format valueColumn ++ " " ++ entry.description

end OptionEntry

namespace OptionStore

/-- The line above the rows. -/
def tableHeader : String :=
  "━━━━━━━━━━━━━━━━━ Options ━━━━━━━━━━━━━━━━━"

/-- The line below the rows. -/
def tableFooter : String :=
  "━━━━━━━━━━━━━━━━━━━━━━━━━━━━━━━━━━━━━━━━━━━"

/-- The lines of the table. -/
def tableLines (store : OptionStore) : List String :=
  tableHeader :: store.toList.map (fun item => item.2.row item.1) ++ [tableFooter]

/-- The table, with every line ended. -/
def table (store : OptionStore) : String :=
  String.join (store.tableLines.map (· ++ "\n"))

end OptionStore

end StrategyCoordinator
