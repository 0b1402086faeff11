/-
This file reads the rows of tables. A row is cut at its vertical bars; a backslash in
front of a bar makes it part of a cell. The row under the head gives the alignment of
each column and makes the lines a table.
-/

import BookMarkup.Markdown.Block

namespace BookMarkup

namespace Markdown

/-- The parts of a row between its vertical bars. -/
def barParts : Text → List Text
  | [] => [[]]
  | '\\' :: '|' :: rest =>
    match barParts rest with
    | [] => [['|']]
    | part :: others => ('|' :: part) :: others
  | head :: rest =>
    if head = '|' then [] :: barParts rest
    else
      match barParts rest with
      | [] => [[head]]
      | part :: others => (head :: part) :: others

/-- The cells of a row. Bars at its two ends are optional. -/
def cellsOf (row : Text) : List Text :=
  let trimmed := Text.trim row
  let opened := (Text.after? ['|'] trimmed).getD trimmed
  let parts := barParts opened
  let inner := if 1 < parts.length && parts.getLast?.any (·.all isBlank) then parts.dropLast else parts
  inner.map Text.trim

/-- Whether a row has a vertical bar. -/
def hasBar (row : Text) : Bool :=
  row.contains '|'

/-- The alignment that a cell of the second row gives: hyphens, with a colon at the sides that
the text keeps to. -/
def alignment? (cell : Text) : Option (Option ColumnAlignment) :=
  let isLeft := cell.head? == some ':'
  let isRight := 1 < cell.length && cell.getLast? == some ':'
  let hyphens := (if isRight then cell.dropLast else cell).drop (if isLeft then 1 else 0)
  if hyphens.isEmpty || !hyphens.all (· == '-') then none
  else
    match isLeft, isRight with
    | true, true => some (some .center)
    | true, false => some (some .left)
    | false, true => some (some .right)
    | false, false => some none

/-- The alignments that the second row of a table gives. -/
def alignments? (row : Text) : Option (List (Option ColumnAlignment)) :=
  if hasBar row then (cellsOf row).mapM alignment? else none

/-- The head and the alignments of a table that starts with two lines. -/
def tableHead? (head second : Text) : Option (List Text × List (Option ColumnAlignment)) :=
  match alignments? second with
  | none => none
  | some alignments =>
    if hasBar head && (cellsOf head).length == alignments.length then
      some (cellsOf head, alignments)
    else none

/-- The cells of a row in a table of some columns: surplus cells are dropped, and missing ones
are empty. -/
def rowCells (columns : Nat) (row : Text) : List Text :=
  let cells := (cellsOf row).take columns
  cells ++ List.replicate (columns - cells.length) []

end Markdown

end BookMarkup
