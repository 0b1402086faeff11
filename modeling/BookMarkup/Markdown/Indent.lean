/-
This file measures the blanks at the start of a line. A tab reaches to the next column
that is a multiple of four, so a line remembers the column at which it starts; a tab
that is only partly taken leaves spaces behind.
-/

import BookMarkup.Text.Blank

namespace BookMarkup

namespace Markdown

/-- What is left of a line, and the column at which that starts. -/
structure Line where
  /-- The column of the first character. -/
  column : Nat
  /-- The characters that are left. -/
  rest : Text
  deriving DecidableEq, Repr

namespace Line

/-- How many columns the blanks at the front of a text take. -/
def indentFrom (column : Nat) : Text → Nat
  | ' ' :: rest => indentFrom (column + 1) rest + 1
  | '\t' :: rest =>
    let width := 4 - column % 4
    indentFrom (column + width) rest + width
  | _ => 0

/-- How many columns the blanks at the front of a line take. -/
def indent (line : Line) : Nat :=
  indentFrom line.column line.rest

/-- A line without its first columns of blanks, as far as there are any. -/
def dropColumns : Nat → Line → Line
  | 0, line => line
  | count + 1, line =>
    match line.rest with
    | ' ' :: rest => dropColumns count ⟨line.column + 1, rest⟩
    | '\t' :: rest =>
      dropColumns count ⟨line.column + 1, List.replicate (3 - line.column % 4) ' ' ++ rest⟩
    | _ => line

/-- A line without the blanks at its front. -/
def dropIndent (line : Line) : Line :=
  dropColumns line.indent line

/-- A line without its first characters, none of which is a blank. -/
def dropChars (count : Nat) (line : Line) : Line :=
  ⟨line.column + count, line.rest.drop count⟩

/-- Whether a line holds only blanks. -/
def isBlankLine (line : Line) : Bool :=
  line.rest.all fun c => c == ' ' || c == '\t'

end Line

end Markdown

end BookMarkup
