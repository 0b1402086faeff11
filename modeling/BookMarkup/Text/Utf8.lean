/-
This file decodes UTF-8. The input is a sequence of bytes in which whole characters
may stand already, as in a text of which only parts are percent-encoded. The decoder
is a machine that reads one unit at a time. It reports each malformed part once: a
part ends in front of the first unit that cannot continue it.
-/

import BookMarkup.Text.Basic

namespace BookMarkup

namespace Utf8

/-- A unit of input: a byte of an encoded character, or a character as it is. -/
inductive Octet where
  /-- One byte of the encoding. -/
  | byte (value : UInt8)
  /-- A character that was not encoded. -/
  | char (value : Char)
  deriving DecidableEq, Repr

/-- What a character that has begun still needs. -/
structure Pending where
  /-- How many bytes are missing. -/
  owed : Nat
  /-- The least value of the next byte. -/
  least : Nat
  /-- The greatest value of the next byte. -/
  greatest : Nat
  /-- The bits of the code point so far. -/
  bits : Nat
  deriving DecidableEq, Repr

/-- What a first byte of a longer form begins, unless no character starts with it. The bounds
on the second byte leave out overlong forms, surrogates and numbers above the last code
point. -/
def begin? (byte : Nat) : Option Pending :=
  if 0xC2 ≤ byte ∧ byte ≤ 0xDF then some ⟨1, 0x80, 0xBF, byte - 0xC0⟩
  else if byte = 0xE0 then some ⟨2, 0xA0, 0xBF, 0⟩
  else if byte = 0xED then some ⟨2, 0x80, 0x9F, 0xD⟩
  else if 0xE1 ≤ byte ∧ byte ≤ 0xEF then some ⟨2, 0x80, 0xBF, byte - 0xE0⟩
  else if byte = 0xF0 then some ⟨3, 0x90, 0xBF, 0⟩
  else if 0xF1 ≤ byte ∧ byte ≤ 0xF3 then some ⟨3, 0x80, 0xBF, byte - 0xF0⟩
  else if byte = 0xF4 then some ⟨3, 0x80, 0x8F, 4⟩
  else none

/-- Reads a byte between characters: what it completes and what it begins. -/
def start (byte : Nat) : List (Option Char) × Option Pending :=
  if byte < 0x80 then ([some (Char.ofNat byte)], none)
  else match begin? byte with
    | some pending => ([], some pending)
    | none => ([none], none)

/-- Reads a byte behind the beginning of a character. -/
def resume (pending : Pending) (byte : Nat) : List (Option Char) × Option Pending :=
  if pending.least ≤ byte ∧ byte ≤ pending.greatest then
    let bits := pending.bits * 64 + byte % 64
    if pending.owed ≤ 1 then ([some (Char.ofNat bits)], none)
    else ([], some ⟨pending.owed - 1, 0x80, 0xBF, bits⟩)
  else
    let (read, begun) := start byte
    (none :: read, begun)

/-- Decodes behind a character that may have begun; a malformed part is `none`. -/
def decodeFrom : Option Pending → List Octet → List (Option Char)
  | none, [] => []
  | some _, [] => [none]
  | none, .char c :: rest => some c :: decodeFrom none rest
  | some _, .char c :: rest => none :: some c :: decodeFrom none rest
  | none, .byte value :: rest =>
    let (read, begun) := start value.toNat
    read ++ decodeFrom begun rest
  | some pending, .byte value :: rest =>
    let (read, begun) := resume pending value.toNat
    read ++ decodeFrom begun rest

/-- The characters of the input, with `none` for each malformed part. -/
def decode (input : List Octet) : List (Option Char) :=
  decodeFrom none input

/-- The text of well-formed input. -/
def decode? (input : List Octet) : Option Text :=
  (decode input).mapM id

/-- The text of any input, with the replacement character for each malformed part. -/
def decodeLossy (input : List Octet) : Text :=
  (decode input).map fun read => read.getD '\uFFFD'

end Utf8

end BookMarkup
