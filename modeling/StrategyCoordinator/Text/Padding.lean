/-!
# Texts cut and padded to a column

A precision keeps that many characters from the front, a width fills up with spaces, and the
cut comes before the fill. Both count characters. Centred text gets the odd space on its
right.
-/

namespace StrategyCoordinator

/-- The side of a column that a text stands on. -/
inductive Alignment
  | left
  | center
  | right
deriving DecidableEq

/-- How a text is laid out in a column. -/
structure Column where
  width : Nat := 0
  alignment : Alignment := .left
  precision : Option Nat := none
deriving DecidableEq

namespace Column

/-- The part of a text that the column keeps. -/
def cut (column : Column) (text : List Char) : List Char :=
  match column.precision with
  | none => text
  | some precision => text.take precision

/-- The number of spaces before a text, given the number of spaces in all. -/
def spacesBefore (alignment : Alignment) (spaces : Nat) : Nat :=
  match alignment with
  | .left => 0
  | .center => spaces / 2
  | .right => spaces

/-- The characters that stand in the column. -/
def fill (column : Column) (text : List Char) : List Char :=
  let kept := column.cut text
  let spaces := column.width - kept.length
  let before := spacesBefore column.alignment spaces
  List.replicate before ' ' ++ kept ++ List.replicate (spaces - before) ' '

/-- The text that stands in the column. -/
def format (column : Column) (text : String) : String :=
  String.ofList (column.fill text.toList)

end Column

end StrategyCoordinator
