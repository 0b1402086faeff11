/-
This file writes a text as a quoted literal for a message. Single quotes are used
unless the text holds one and no double quote. The backslash and the quote in use are
escaped, and so is every character that would not show: controls, separators other
than the space, format characters and private-use characters.
-/

import BookMarkup.Text.Basic

namespace BookMarkup

namespace Quoted

/-- Ranges of code points outside ASCII that do not show when they are printed. -/
def hiddenRanges : List (Nat × Nat) :=
  [(0x7F, 0xA0), (0xAD, 0xAD), (0x600, 0x605), (0x61C, 0x61C), (0x6DD, 0x6DD), (0x70F, 0x70F),
   (0x890, 0x891), (0x8E2, 0x8E2), (0x1680, 0x1680), (0x180E, 0x180E), (0x2000, 0x200F),
   (0x2028, 0x202F), (0x205F, 0x206F), (0x3000, 0x3000), (0xD800, 0xF8FF), (0xFEFF, 0xFEFF),
   (0xFFF0, 0xFFFB), (0xFFFE, 0xFFFF), (0x110BD, 0x110BD), (0x110CD, 0x110CD),
   (0x13430, 0x1343F), (0x1BCA0, 0x1BCA3), (0x1D173, 0x1D17A), (0xE0000, 0xE00FF),
   (0xE01F0, 0x10FFFF)]

/-- Whether a character shows when it is printed. -/
def isVisible (c : Char) : Bool :=
  0x20 ≤ c.toNat && hiddenRanges.all fun (first, last) => c.toNat < first || last < c.toNat

/-- The small hexadecimal digits of a number, with zeros in front up to a width. -/
def hexDigits (width number : Nat) : Text :=
  let digits := Nat.toDigits 16 number
  List.replicate (width - digits.length) '0' ++ digits

/-- The escape that stands for a character that does not show: a letter where there is one,
else the code point in two, four or eight hexadecimal digits. -/
def escapeHidden (c : Char) : Text :=
  if c = '\n' then ['\\', 'n']
  else if c = '\r' then ['\\', 'r']
  else if c = '\t' then ['\\', 't']
  else if c.toNat < 0x100 then ['\\', 'x'] ++ hexDigits 2 c.toNat
  else if c.toNat < 0x10000 then ['\\', 'u'] ++ hexDigits 4 c.toNat
  else ['\\', 'U'] ++ hexDigits 8 c.toNat

/-- One character inside quotes. -/
def encodeChar (quote c : Char) : Text :=
  if c = quote || c = '\\' then ['\\', c]
  else if isVisible c then [c]
  else escapeHidden c

/-- The quote that encloses a text: a double quote only when the text holds a single quote and
no double quote. -/
def quoteFor (text : Text) : Char :=
  if text.contains '\'' && !text.contains '"' then '"' else '\''

/-- A text between quotes. -/
def encode (text : Text) : Text :=
  let quote := quoteFor text
  quote :: (text.flatMap (encodeChar quote) ++ [quote])

end Quoted

end BookMarkup
