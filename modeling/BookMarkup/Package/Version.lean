/-
This file compares package versions. A version is a dotted list of numbers; versions
of different length are compared as if the shorter one went on with zeros.
-/

import BookMarkup.Text.Basic

namespace BookMarkup

namespace Package

/-- The components of a version. -/
abbrev Version := List Nat

namespace Version

/-- The number that a non-empty text of digits spells. -/
def number? (text : Text) : Option Nat :=
  if text.isEmpty || !text.all Char.isDigit then none
  else some (text.foldl (fun number digit => number * 10 + (digit.toNat - '0'.toNat)) 0)

/-- The version that a text writes. -/
def ofText? (text : Text) : Option Version :=
  (Text.parts '.' text).mapM number?

/-- Compares two versions component by component. -/
def compare : Version → Version → Ordering
  | [], others => if others.all (· == 0) then .eq else .lt
  | component :: others, [] => if component = 0 then compare others [] else .gt
  | first :: left, second :: right =>
    if first < second then .lt else if second < first then .gt else compare left right

/-- Whether a version starts with the components of another one; a version goes on with zeros. -/
def startsWith : Version → Version → Bool
  | _, [] => true
  | [], component :: others => component == 0 && startsWith [] others
  | first :: left, second :: right => first == second && startsWith left right

end Version

end Package

end BookMarkup
