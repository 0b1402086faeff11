/-
This file reads the identifier that an author may put behind a heading: a marker
`{#identifier}` at the end of the heading text. The marker starts at the first place
of its line that can start one, and the no-break space that joined it to the last word
belongs to it.
-/

import BookMarkup.Text.Blank
import BookMarkup.Text.Widow

namespace BookMarkup

namespace Heading

/-- A heading text from which the marker was cut. -/
structure Marked where
  /-- The identifier that the marker gives. -/
  identifier : Text
  /-- The text in front of the marker. -/
  text : Text
  deriving DecidableEq, Repr

/-- A text without its closing brace, if it ends in one. One newline may stand behind it. -/
def beforeClosingBrace? (text : Text) : Option Text :=
  let body := (Text.before? ['\n'] text).getD text
  Text.before? ['}'] body

/-- Splits a text in front of its last line. -/
def splitLastLine (text : Text) : Text × Text :=
  let line := (text.reverse.takeWhile (· != '\n')).reverse
  (text.take (text.length - line.length), line)

/-- Reads the marker at the end of a heading text. A marker without an identifier is none. -/
def marked? (text : Text) : Option Marked := do
  let inner ← beforeClosingBrace? text
  let (above, line) := splitLastLine inner
  let (before, identifier) ← Text.breakOn ['{', '#'] line
  if identifier.isEmpty then none
  else
    let visible := above ++ before
    some ⟨identifier, Text.trimEnd ((Text.before? noBreakSpace visible).getD visible)⟩

end Heading

end BookMarkup
