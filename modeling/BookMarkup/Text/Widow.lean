/-
This file joins the last two words of a run of text, so that a browser never leaves
the last word alone on a line.
-/

import BookMarkup.Text.Basic

namespace BookMarkup

/-- The character reference for a space at which no line may break. -/
def noBreakSpace : Text :=
  "&nbsp;".toList

namespace Text

/-- Replaces the last space of a text by a no-break space, unless that space is the first or
the last character. -/
def joinLastWords (text : Text) : Text :=
  match breakOnLast [' '] text with
  | none => text
  | some (before, behind) =>
    if before.isEmpty || behind.isEmpty then text else before ++ noBreakSpace ++ behind

/-- A text without a space stays as it is. -/
theorem joinLastWords_of_breakOnLast_eq_none (text : Text)
    (absent : breakOnLast [' '] text = none) : joinLastWords text = text := by
  simp [joinLastWords, absent]

end Text

end BookMarkup
