/-
This file lays highlighted markup out as the rows of a table, one row for each line
with its number. Comment spans and spans of embedded style sheets that cross line ends
are closed and opened again at every line end before the lines are cut.
-/

import BookMarkup.Listing.Highlight
import BookMarkup.Text.Blank
import BookMarkup.Text.Scan

namespace BookMarkup

namespace Listing

/-! ### Line ends -/

/-- Replaces every line end, with or without a carriage return in front, by a text. -/
def replaceLineEnds (replacement : Text) : Text → Text
  | '\r' :: '\n' :: rest => replacement ++ replaceLineEnds replacement rest
  | '\n' :: rest => replacement ++ replaceLineEnds replacement rest
  | head :: rest => head :: replaceLineEnds replacement rest
  | [] => []

/-- Puts a character in front of the first of some lines. -/
def consFirst (c : Char) : List Text → List Text
  | [] => [[c]]
  | line :: others => (c :: line) :: others

/-- The lines of a text whose line ends may have a carriage return in front. -/
def sourceLines : Text → List Text
  | '\r' :: '\n' :: rest => [] :: sourceLines rest
  | '\n' :: rest => [] :: sourceLines rest
  | head :: rest => consFirst head (sourceLines rest)
  | [] => [[]]

/-! ### Spans that cross lines -/

/-- The classes of spans that may cross lines. -/
def crossingClasses : List Text :=
  ["hljs-comment".toList, "css".toList]

/-- The pattern of a span of a class up to the first end tag. -/
def spanPattern (className : Text) : Text.Pattern := fun text =>
  match Text.after? (spanStart className) text with
  | none => 0
  | some rest =>
    match Text.breakOn spanEnd rest with
    | none => 0
    | some (inside, _) => (spanStart className).length + inside.length + spanEnd.length

/-- Closes and reopens the spans of a class at every line end in them. -/
def splitSpansOf (markup className : Text) : Text :=
  Text.substitute (spanPattern className)
    (replaceLineEnds (spanEnd ++ ['\n'] ++ spanStart className)) markup

/-- Closes and reopens at every line end the spans that may cross lines. -/
def splitCrossingSpans (markup : Text) : Text :=
  crossingClasses.foldl splitSpansOf markup

/-- Drops an end tag of a span that opens a line: it closes nothing there. -/
def dropStrayEnd (line : Text) : Text :=
  if spanEnd.isPrefixOf (Text.trim line) then Text.replaceFirst spanEnd [] line else line

/-! ### Rows -/

/-- The contents of the rows of a listing. -/
def rowContents (markup : Text) : List Text :=
  (sourceLines (splitCrossingSpans markup)).map dropStrayEnd

/-- A row: the cell of its number and the cell of its line. The number is shown by the style
sheet, so that copying the code does not copy it. -/
def renderRow (number : Nat) (content : Text) : Text :=
  "<tr><td class=\"line-number\" data-pseudo-content=\"".toList ++ Text.ofNat number ++
    "\"></td><td><pre>".toList ++ content ++ "</pre></td></tr>\n".toList

/-- Rows numbered from `first` on. -/
def renderRowsFrom (first : Nat) : List Text → Text
  | [] => []
  | content :: others => renderRow first content ++ renderRowsFrom (first + 1) others

/-- Lays markup out as rows numbered from one. -/
def renderRows (markup : Text) : Text :=
  renderRowsFrom 1 (rowContents markup)

end Listing

end BookMarkup
