/-
This file decodes HTML character references. A numeric reference gives a code point
in decimal or hexadecimal digits and may lack its semicolon. A named reference is one
of the known names; some of them may lack the semicolon too, and then the known name at
the start of the run counts.

The number of a decimal reference is read by a conversion that refuses more than 4300
digits. A text with a longer number is not decoded at all: decoding it is an error.
-/

import BookMarkup.Html.NameTable
import BookMarkup.Url.Percent

namespace BookMarkup

namespace CharRef

/-! ### Numeric references -/

/-- The characters that the code points 0x80 to 0x9F stand for in a reference: those of the
Windows-1252 code page. -/
def windows1252 : List Nat :=
  [0x20AC, 0x81, 0x201A, 0x0192, 0x201E, 0x2026, 0x2020, 0x2021, 0x02C6, 0x2030, 0x0160, 0x2039,
   0x0152, 0x8D, 0x017D, 0x8F, 0x90, 0x2018, 0x2019, 0x201C, 0x201D, 0x2022, 0x2013, 0x2014,
   0x02DC, 0x2122, 0x0161, 0x203A, 0x0153, 0x9D, 0x017E, 0x0178]

/-- Whether a reference to a code point gives nothing: controls other than white space and the
code points that are never characters. -/
def isForbidden (code : Nat) : Bool :=
  (0x1 ≤ code && code ≤ 0x8) || code == 0xB || (0xE ≤ code && code ≤ 0x1F) || code == 0x7F ||
    (0xFDD0 ≤ code && code ≤ 0xFDEF) || 0xFFFE ≤ code % 0x10000

/-- The text that a numeric reference to a code point gives. -/
def ofCodePoint (code : Nat) : Text :=
  if code = 0 then ['\uFFFD']
  else if 0x80 ≤ code ∧ code ≤ 0x9F then [Char.ofNat (windows1252.getD (code - 0x80) code)]
  else if (0xD800 ≤ code ∧ code ≤ 0xDFFF) ∨ 0x10FFFF < code then ['\uFFFD']
  else if isForbidden code then []
  else [Char.ofNat code]

/-- The number that digits of a base spell. -/
def numberOf (base : Nat) (digits : Text) : Nat :=
  digits.foldl (fun number digit => number * base + (Percent.hexValue? digit).getD 0) 0

/-! ### Named references -/

/-- A character that the name of a reference may hold. -/
def isNameChar (c : Char) : Bool :=
  c != '\t' && c != '\n' && c != '\x0C' && c != ' ' && c != '<' && c != '&' && c != '#' && c != ';'

/-- The text that a run of name characters gives and how much of the run and its semicolon is
used: a whole name, or else the name at its start that needs no semicolon. -/
def lookup? (run : Text) (terminated : Bool) : Option (Text × Nat) :=
  match (if terminated then allNames.lookup run else none) with
  | some value => some (value, run.length + 1)
  | none =>
    (bareNames.find? fun (name, _) => name.isPrefixOf run).map
      fun (name, value) => (value, name.length)

/-! ### References in a text -/

/-- Whether a character is a hexadecimal digit. -/
def isHexDigit (c : Char) : Bool :=
  (Percent.hexValue? c).isSome

/-- A numeric reference as it stands behind the `opening` characters that start it: its text and
how many characters it takes. With `strict`, only a reference that ends in a semicolon counts, and
one with more digits than `most` does not. -/
def readDigits (strict : Bool) (base opening : Nat) (isDigit : Char → Bool) (most : Option Nat)
    (text : Text) : Option (Text × Nat) :=
  let digits := text.takeWhile isDigit
  let terminated := (text.dropWhile isDigit).head? == some ';'
  if digits.isEmpty || (strict && (!terminated || most.any (· < digits.length))) then none
  else some (ofCodePoint (numberOf base digits),
    opening + digits.length + if terminated then 1 else 0)

/-- A named reference: its text and how many characters it takes. With `strict`, only one that
ends in a semicolon counts. -/
def readName (strict : Bool) (text : Text) : Option (Text × Nat) :=
  let run := (text.takeWhile isNameChar).take 32
  let terminated := (text.drop run.length).head? == some ';'
  if run.isEmpty || (strict && !terminated) then none else lookup? run terminated

/-- A reference as it stands behind its ampersand: its text and how many characters it takes.
With `strict`, only a reference that ends in a semicolon counts, and a decimal one has at most
seven digits. -/
def read? (strict : Bool) : Text → Option (Text × Nat)
  | '#' :: 'x' :: rest => readDigits strict 16 2 isHexDigit none rest
  | '#' :: 'X' :: rest => readDigits strict 16 2 isHexDigit none rest
  | '#' :: rest => readDigits strict 10 1 Char.isDigit (some 7) rest
  | text => readName strict text

/-- Decodes behind a reference of which `skip` characters are still to be passed over. -/
def decodeFrom (strict : Bool) : Nat → Text → Text
  | _, [] => []
  | skip + 1, _ :: rest => decodeFrom strict skip rest
  | 0, head :: rest =>
    if head = '&' then
      match read? strict rest with
      | some (value, taken) => value ++ decodeFrom strict taken rest
      | none => head :: decodeFrom strict 0 rest
    else head :: decodeFrom strict 0 rest

/-- Decodes every character reference of a text, as a browser does, however long its numbers
are. -/
def decode (text : Text) : Text :=
  decodeFrom false 0 text

/-- Decodes the character references of a text that end in a semicolon. -/
def decodeTerminated (text : Text) : Text :=
  decodeFrom true 0 text

/-! ### Numbers that are too long -/

/-- The greatest number of decimal digits that is converted to a number. -/
def mostDigits : Nat :=
  4300

/-- A decimal number that is refused because of its length. -/
structure LongNumber where
  /-- How many digits it has. -/
  digits : Nat
  deriving DecidableEq, Repr

/-- The message about a number that is refused. -/
def LongNumber.message (number : LongNumber) : Text :=
  "Exceeds the limit (".toList ++ Text.ofNat mostDigits ++
    " digits) for integer string conversion: value has ".toList ++ Text.ofNat number.digits ++
    " digits; use sys.set_int_max_str_digits() to increase the limit".toList

/-- How many digits the decimal reference behind an ampersand has. -/
def decimalDigits : Text → Nat
  | '#' :: rest => (rest.takeWhile Char.isDigit).length
  | _ => 0

/-- The first number of a text that is too long. -/
def longNumber? : Text → Option LongNumber
  | [] => none
  | head :: rest =>
    if head = '&' ∧ mostDigits < decimalDigits rest then some ⟨decimalDigits rest⟩
    else longNumber? rest

/-- Decodes every character reference of a text unless one of its numbers is too long. -/
def unescape (text : Text) : Except LongNumber Text :=
  match longNumber? text with
  | some number => .error number
  | none => .ok (decode text)

end CharRef

end BookMarkup
