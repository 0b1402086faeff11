/-
This file takes a rendered block quote apart. The citation is what follows the last
line that starts with an em dash, up to the end of its paragraph. The body loses its
paragraph tags and one pair of quote marks, which are looked for at its two ends only.
-/

import BookMarkup.Text.Blank

namespace BookMarkup

namespace Quote

/-! ### The citation -/

/-- A quote with its citation split off. -/
structure Cited where
  /-- The quoted text. -/
  body : Text
  /-- The citation with the newline and the em dash in front of it. -/
  citation : Option Text
  deriving DecidableEq, Repr

/-- What starts a citation: a line that starts with an em dash. -/
def citationMarker : Text :=
  ['\n', '\u2014']

/-- The start of a text up to the first end tag of a paragraph. -/
def beforeParagraphEnd (text : Text) : Text :=
  match Text.breakOn "</p>".toList text with
  | some (before, _) => before
  | none => text

/-- Splits the citation off a quote. Nothing is split off when no text stands in front of it. -/
def split (quote : Text) : Cited :=
  match Text.breakOnLast citationMarker quote with
  | some (before, behind) =>
    if before.isEmpty then ⟨quote, none⟩
    else ⟨Text.trim before, some (beforeParagraphEnd (citationMarker ++ behind))⟩
  | none => ⟨quote, none⟩

/-! ### The quote marks -/

/-- The glyphs that open a quote. -/
def isOpeningMark (c : Char) : Bool :=
  c == '"' || c == '\u201C' || c == '\u201E'

/-- The glyphs that close a quote. -/
def isClosingMark (c : Char) : Bool :=
  c == '"' || c == '\u201D' || c == '\u201C'

/-- Drops a paragraph start tag at the front. -/
def dropStartTag (body : Text) : Text :=
  match Text.after? "<p>".toList body with
  | some rest => Text.trim rest
  | none => body

/-- Drops one opening quote mark at the front. -/
def dropOpeningMark (body : Text) : Text :=
  match body with
  | head :: rest => if isOpeningMark head then Text.trim rest else body
  | [] => []

/-- Drops a paragraph tag at the end. A body that was cut in front of its citation ends in a
start tag; like an end tag it takes four characters with it. -/
def dropEndTag (body : Text) : Text :=
  if "</p>".toList.isSuffixOf body || "<p>".toList.isSuffixOf body then
    Text.trim (body.take (body.length - 4))
  else body

/-- Drops one closing quote mark at the end. -/
def dropClosingMark (body : Text) : Text :=
  if body.getLast?.any isClosingMark then Text.trim body.dropLast else body

/-- Removes the paragraph tags and one pair of quote marks from the ends of a body. -/
def stripMarks (body : Text) : Text :=
  dropClosingMark (dropEndTag (dropOpeningMark (dropStartTag body)))

end Quote

end BookMarkup
