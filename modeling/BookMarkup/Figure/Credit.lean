/-
This file splits the credit off the title of a figure. The credit follows the first
`credit:` in any letter case. The place of the cut is counted in small letters: a
dotted capital `I` has a small form of two characters, so every one of them in front
of the credit moves the cut one place to the right.
-/

import BookMarkup.Text.Blank
import BookMarkup.Text.Word

namespace BookMarkup

namespace Figure

/-- The title of a figure, taken apart. -/
structure Caption where
  /-- The text of the caption. -/
  text : Text
  /-- The credit, if the title gives one. -/
  credit : Option Text
  deriving DecidableEq, Repr

/-- What stands in front of a credit. -/
def creditMarker : Text :=
  "credit:".toList

/-- The part of a title in front of its first credit marker. -/
def beforeCredit? : Text → Option Text
  | [] => none
  | head :: rest =>
    if Text.startsCaseless creditMarker (head :: rest) then some []
    else (beforeCredit? rest).map (head :: ·)

/-- The place of the first credit marker, counted in small letters. -/
def creditIndex? (title : Text) : Option Nat :=
  (beforeCredit? title).map fun before => before.length + before.count '\u0130'

/-- Splits the credit off a title. A title that starts with the marker stays whole. -/
def splitCredit (title : Text) : Caption :=
  match creditIndex? title with
  | none | some 0 => ⟨title, none⟩
  | some index =>
    ⟨Text.trim (title.take index), some (Text.trim (title.drop (index + creditMarker.length)))⟩

end Figure

end BookMarkup
