/-
This file writes and reads percent-encoding. A character that may not stand in a URL
is written as the bytes of its UTF-8 form, each as a percent sign and two capital
hexadecimal digits. Reading takes digits of either case and leaves a percent sign
alone that two hexadecimal digits do not follow.
-/

import BookMarkup.Text.Utf8

namespace BookMarkup

namespace Percent

/-! ### Writing -/

/-- A hexadecimal digit, with capital letters. -/
def hexDigit (value : Nat) : Char :=
  if value < 10 then Char.ofNat (0x30 + value) else Char.ofNat (0x37 + value)

/-- The escape of one byte. -/
def encodeByte (byte : UInt8) : Text :=
  ['%', hexDigit (byte.toNat / 16), hexDigit (byte.toNat % 16)]

/-- The escape of one character: one escape per byte of its UTF-8 form. -/
def encodeChar (c : Char) : Text :=
  (String.utf8EncodeChar c).flatMap encodeByte

/-- The characters that no URL ever needs to escape. -/
def isUnreserved (c : Char) : Bool :=
  c.isAlphanum || c == '_' || c == '.' || c == '-' || c == '~'

/-- Escapes every character that is neither unreserved nor among the `safe` ones. -/
def encode (safe : Text) (text : Text) : Text :=
  text.flatMap fun c => if isUnreserved c || safe.contains c then [c] else encodeChar c

/-! ### Reading -/

/-- The value of a hexadecimal digit of either case. -/
def hexValue? (c : Char) : Option Nat :=
  if c.isDigit then some (c.toNat - 0x30)
  else if 'a' ≤ c ∧ c ≤ 'f' then some (c.toNat - 0x57)
  else if 'A' ≤ c ∧ c ≤ 'F' then some (c.toNat - 0x37)
  else none

/-- The unit of a character that is no escape: ASCII is a byte of its own, and any other
character ends the encoded part before it. -/
def octetOf (c : Char) : Utf8.Octet :=
  if c.toNat < 0x80 then .byte (UInt8.ofNat c.toNat) else .char c

/-- The units of a percent-encoded text. -/
def octets : Text → List Utf8.Octet
  | '%' :: first :: second :: rest =>
    match hexValue? first, hexValue? second with
    | some high, some low => .byte (UInt8.ofNat (high * 16 + low)) :: octets rest
    | _, _ => .byte 0x25 :: octets (first :: second :: rest)
  | head :: rest => octetOf head :: octets rest
  | [] => []

/-- Decodes a text whose escapes spell well-formed UTF-8. -/
def decode? (text : Text) : Option Text :=
  Utf8.decode? (octets text)

/-- Decodes any text; a malformed part becomes a replacement character. -/
def decodeLossy (text : Text) : Text :=
  Utf8.decodeLossy (octets text)

end Percent

end BookMarkup
