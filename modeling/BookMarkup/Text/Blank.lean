/-
This file says which characters are blank and trims them off the ends of a text.
The blanks are the Unicode white space characters and the four information
separators; zero-width characters are not among them.
-/

import BookMarkup.Text.Basic

namespace BookMarkup

/-- The blank characters: tab to carriage return, the information separators, the space, the
next-line control and the Unicode space separators and line separators. -/
def isBlank (c : Char) : Bool :=
  let code := c.toNat
  (0x09 ≤ code && code ≤ 0x0D) || (0x1C ≤ code && code ≤ 0x20) || code == 0x85 || code == 0xA0 ||
    code == 0x1680 || (0x2000 ≤ code && code ≤ 0x200A) || code == 0x2028 || code == 0x2029 ||
    code == 0x202F || code == 0x205F || code == 0x3000

namespace Text

/-- A text without the blanks at its start. -/
def trimStart (text : Text) : Text :=
  text.dropWhile isBlank

/-- A text without the blanks at its end. -/
def trimEnd (text : Text) : Text :=
  dropEndWhile isBlank text

/-- A text without the blanks at its two ends. -/
def trim (text : Text) : Text :=
  trimEnd (trimStart text)

end Text

end BookMarkup
