/-
This file says which characters are word characters: letters, digits and other
numeric characters of any script, and the underscore. ASCII is decided directly and
the rest by a table of ranges.
-/

import BookMarkup.Text.Basic
import BookMarkup.Text.WordRange

namespace BookMarkup

/-- The word characters of ASCII. -/
def isAsciiWord (c : Char) : Bool :=
  c.isAlphanum || c == '_'

/-- A word character is a letter, a digit, another numeric character or an underscore. -/
def isWord (c : Char) : Bool :=
  if c.toNat < 0x80 then isAsciiWord c
  else wordRanges.any fun ranges => ranges.any fun (first, last) => first ≤ c.toNat && c.toNat ≤ last

/-- A letter of either case in a place where a Latin letter is expected and case does not
count: besides ASCII these are the dotted capital and the dotless small `i`, the long `s`
and the Kelvin sign, which fold to ASCII letters. -/
def isCaselessLetter (c : Char) : Bool :=
  c.isAlpha || c == '\u0130' || c == '\u0131' || c == '\u017F' || c == '\u212A'

/-- Whether a character is the small ASCII letter `letter` when case does not count; the long
`s` counts as an `s`. -/
def isLetterOf (letter c : Char) : Bool :=
  c.toLower == letter || (letter == 's' && c == '\u017F')

/-- A letter or digit of ASCII is a word character. -/
theorem isWord_of_isAlphanum (c : Char) (alphanumeric : c.isAlphanum = true) : isWord c = true := by
  have small : c.toNat < 0x80 := by
    delta Char.isAlphanum Char.isAlpha Char.isUpper Char.isLower Char.isDigit at alphanumeric
    simp only [Bool.or_eq_true, Bool.and_eq_true, decide_eq_true_eq] at alphanumeric
    simp only [Char.toNat, UInt32.le_iff_toNat_le] at *
    have upper : 'Z'.val.toNat = 90 := rfl
    have lower : 'z'.val.toNat = 122 := rfl
    have digit : '9'.val.toNat = 57 := rfl
    omega
  simp [isWord, small, isAsciiWord, alphanumeric]

namespace Text

/-- A text in which the capital ASCII letters are small. Where it is compared with ASCII text
alone, no other letter matters. -/
def lower (text : Text) : Text :=
  text.map Char.toLower

/-- Whether a text starts with the small letters and other characters of `front` when the case
of ASCII letters does not count. -/
def startsCaseless (front text : Text) : Bool :=
  front.isPrefixOf (lower (text.take front.length))

end Text

end BookMarkup
