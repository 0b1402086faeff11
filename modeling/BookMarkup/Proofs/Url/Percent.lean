/-
This file proves that percent-encoding a character does not change what a text is decoded
to, as long as the character is no percent sign and no hexadecimal digit. Only these play
a part in reading an escape, so the escapes that are there already are read as before, and
the new ones are read as the bytes of the characters that they stand for.
-/

import BookMarkup.Proofs.Text.Utf8
import BookMarkup.Url.Percent

namespace BookMarkup

namespace Percent

/-! ### Units -/

theorem octets_cons_of_ne {head : Char} (other : head ≠ '%') (rest : Text) :
    octets (head :: rest) = octetOf head :: octets rest := by
  rw [octets]
  exact fun _ _ _ equal => absurd equal other

/-- Whether a text starts with two hexadecimal digits, as an escape does behind its percent sign. -/
def StartsWithDigits (text : Text) : Prop :=
  ∃ first second rest high low, text = first :: second :: rest ∧
    hexValue? first = some high ∧ hexValue? second = some low

theorem octets_escape {first second : Char} {high low : Nat} (isHigh : hexValue? first = some high)
    (isLow : hexValue? second = some low) (rest : Text) :
    octets ('%' :: first :: second :: rest) =
      .byte (UInt8.ofNat (high * 16 + low)) :: octets rest := by
  rw [octets, isHigh, isLow]

/-- A percent sign that starts no escape stands for itself. -/
theorem octets_percent {text : Text} (noDigits : ¬ StartsWithDigits text) :
    octets ('%' :: text) = .byte 0x25 :: octets text := by
  match text, noDigits with
  | [], _ => rfl
  | [_], _ => rfl
  | first :: second :: rest, noDigits =>
    rw [octets]
    cases isHigh : hexValue? first with
    | none => rfl
    | some high =>
      cases isLow : hexValue? second with
      | none => rfl
      | some low => exact absurd ⟨first, second, rest, high, low, rfl, isHigh, isLow⟩ noDigits

/-! ### Decoding from the front -/

/-- A decoded character goes in front of what is decoded behind it. -/
theorem mapM_id_cons (c : Char) (read : List (Option Char)) :
    (some c :: read).mapM id = (read.mapM id).map (c :: ·) := by
  rw [List.mapM_cons]
  cases read.mapM id <;> rfl

/-- A character that is no percent sign is read as itself. -/
theorem decode_octets_cons_of_ne {head : Char} (other : head ≠ '%') (rest : Text) :
    Utf8.decode (octets (head :: rest)) = some head :: Utf8.decode (octets rest) := by
  rw [octets_cons_of_ne other, octetOf]
  split_ifs with small
  · exact Utf8.decode_byte small _
  · rfl

/-- The escape of an ASCII character is read as that character. -/
theorem decode_octets_escape {first second c : Char} {high low : Nat}
    (isHigh : hexValue? first = some high) (isLow : hexValue? second = some low)
    (code : high * 16 + low = c.toNat) (small : c.toNat < 0x80) (rest : Text) :
    Utf8.decode (octets ('%' :: first :: second :: rest)) =
      some c :: Utf8.decode (octets rest) := by
  rw [octets_escape isHigh isLow, code, Utf8.decode_byte small]

theorem decode?_cons_of_ne {head : Char} (other : head ≠ '%') (rest : Text) :
    decode? (head :: rest) = (decode? rest).map (head :: ·) := by
  unfold decode? Utf8.decode?
  rw [decode_octets_cons_of_ne other, mapM_id_cons]

theorem decodeLossy_cons_of_ne {head : Char} (other : head ≠ '%') (rest : Text) :
    decodeLossy (head :: rest) = head :: decodeLossy rest := by
  unfold decodeLossy Utf8.decodeLossy
  rw [decode_octets_cons_of_ne other]
  rfl

/-- A text without a percent sign is not changed by decoding. -/
theorem decode?_append_of_plain {front : Text} (plain : '%' ∉ front) (rest : Text) :
    decode? (front ++ rest) = (decode? rest).map (front ++ ·) := by
  induction front with
  | nil => exact Option.map_id'.symm
  | cons head front inductionHypothesis =>
    simp only [List.mem_cons, not_or] at plain
    rw [List.cons_append, decode?_cons_of_ne (Ne.symm plain.1), inductionHypothesis plain.2,
      Option.map_map]
    rfl

/-- The escape of an ASCII character is decoded to that character. -/
theorem decode?_escape {first second c : Char} {high low : Nat}
    (isHigh : hexValue? first = some high) (isLow : hexValue? second = some low)
    (code : high * 16 + low = c.toNat) (small : c.toNat < 0x80) (rest : Text) :
    decode? ('%' :: first :: second :: rest) = (decode? rest).map (c :: ·) := by
  unfold decode? Utf8.decode?
  rw [decode_octets_escape isHigh isLow code small, mapM_id_cons]

theorem decodeLossy_escape {first second c : Char} {high low : Nat}
    (isHigh : hexValue? first = some high) (isLow : hexValue? second = some low)
    (code : high * 16 + low = c.toNat) (small : c.toNat < 0x80) (rest : Text) :
    decodeLossy ('%' :: first :: second :: rest) = c :: decodeLossy rest := by
  unfold decodeLossy Utf8.decodeLossy
  rw [decode_octets_escape isHigh isLow code small]
  rfl

/-! ### Encoding -/

theorem hexValue?_hexDigit {value : Nat} (small : value < 16) :
    hexValue? (hexDigit value) = some value := by
  have all : ∀ value < 16, hexValue? (hexDigit value) = some value := by decide
  exact all value small

theorem octets_encodeByte (byte : UInt8) (rest : Text) :
    octets (encodeByte byte ++ rest) = .byte byte :: octets rest := by
  have bound : byte.toNat < 256 := byte.toNat_lt
  have whole : byte.toNat / 16 * 16 + byte.toNat % 16 = byte.toNat := by omega
  have read := octets_escape (hexValue?_hexDigit (by omega : byte.toNat / 16 < 16))
    (hexValue?_hexDigit (by omega : byte.toNat % 16 < 16)) rest
  rw [whole, UInt8.ofNat_toNat] at read
  exact read

theorem head?_encodeChar (c : Char) : (encodeChar c).head? = some '%' := by
  have bytes : ∃ byte others, String.utf8EncodeChar c = byte :: others := by
    simp only [String.utf8EncodeChar]
    split_ifs <;> exact ⟨_, _, rfl⟩
  obtain ⟨byte, others, equal⟩ := bytes
  rw [encodeChar, equal]
  rfl

/-- The escapes of a character stand for the bytes of its UTF-8 form. -/
theorem octets_encodeChar (c : Char) (rest : Text) :
    octets (encodeChar c ++ rest) = (String.utf8EncodeChar c).map .byte ++ octets rest := by
  unfold encodeChar
  induction String.utf8EncodeChar c with
  | nil => rfl
  | cons byte bytes inductionHypothesis =>
    rw [List.flatMap_cons, List.append_assoc, octets_encodeByte, inductionHypothesis]
    rfl

/-- Behind any input, the bytes of a character are decoded like the character. -/
theorem decodeFrom_encoded (c : Char) {pending : Option Utf8.Pending}
    (sound : Utf8.IsSound pending) (rest : List Utf8.Octet) :
    Utf8.decodeFrom pending ((String.utf8EncodeChar c).map .byte ++ rest) =
      Utf8.decodeFrom pending (octetOf c :: rest) := by
  by_cases small : c.toNat < 0x80
  · have single : String.utf8EncodeChar c = [UInt8.ofNat c.toNat] :=
      if_pos (Nat.le_of_lt_succ small)
    rw [single, octetOf, if_pos small]
    rfl
  · rw [octetOf, if_neg small]
    exact Utf8.decodeFrom_utf8EncodeChar (Nat.le_of_not_lt small) sound rest

/-- Whether a text is another one with some characters percent-encoded, but no percent sign and no
hexadecimal digit. -/
inductive IsEncoding : Text → Text → Prop where
  | nil : IsEncoding [] []
  | kept (c : Char) {text written : Text} (behind : IsEncoding text written) :
    IsEncoding (c :: text) (c :: written)
  | encoded {c : Char} (noPercent : c ≠ '%') (noDigit : hexValue? c = none) {text written : Text}
    (behind : IsEncoding text written) : IsEncoding (c :: text) (encodeChar c ++ written)

namespace IsEncoding

variable {text written : Text}

theorem append (front : Text) (encoding : IsEncoding text written) :
    IsEncoding (front ++ text) (front ++ written) := by
  induction front with
  | nil => exact encoding
  | cons head front inductionHypothesis => exact inductionHypothesis.kept head

/-- A hexadecimal digit at the start stays there. -/
theorem digit_forth {c : Char} {value : Nat} (encoding : IsEncoding (c :: text) written)
    (digit : hexValue? c = some value) :
    ∃ behind, written = c :: behind ∧ IsEncoding text behind := by
  cases encoding with
  | kept c behind => exact ⟨_, rfl, behind⟩
  | encoded noPercent noDigit behind =>
    rw [noDigit] at digit
    cases digit

/-- A hexadecimal digit at the start was there before. -/
theorem digit_back {c : Char} {value : Nat} (encoding : IsEncoding text (c :: written))
    (digit : hexValue? c = some value) :
    ∃ behind, text = c :: behind ∧ IsEncoding behind written := by
  generalize whole : c :: written = all at encoding
  cases encoding with
  | nil => cases whole
  | kept c behind =>
    cases whole
    exact ⟨_, rfl, behind⟩
  | @encoded other noPercent noDigit text written behind =>
    obtain ⟨tail, starts⟩ := List.head?_eq_some_iff.mp (head?_encodeChar other)
    rw [starts] at whole
    rw [(List.cons.inj whole).1] at digit
    cases digit

/-- An escape behind a percent sign stays there, and none is made. -/
theorem startsWithDigits_iff (encoding : IsEncoding text written) :
    StartsWithDigits text ↔ StartsWithDigits written := by
  constructor
  · rintro ⟨first, second, rest, high, low, rfl, isHigh, isLow⟩
    obtain ⟨_, rfl, inner⟩ := encoding.digit_forth isHigh
    obtain ⟨behind, rfl, -⟩ := inner.digit_forth isLow
    exact ⟨first, second, behind, high, low, rfl, isHigh, isLow⟩
  · rintro ⟨first, second, rest, high, low, rfl, isHigh, isLow⟩
    obtain ⟨_, rfl, inner⟩ := encoding.digit_back isHigh
    obtain ⟨behind, rfl, -⟩ := inner.digit_back isLow
    exact ⟨first, second, behind, high, low, rfl, isHigh, isLow⟩

/-- An encoding is decoded to what the text is decoded to. The induction is on the length of the
text, because an escape is passed in one step. -/
theorem decodeFrom_octets (encoding : IsEncoding text written) {pending : Option Utf8.Pending}
    (sound : Utf8.IsSound pending) :
    Utf8.decodeFrom pending (octets text) = Utf8.decodeFrom pending (octets written) := by
  induction size : text.length using Nat.strongRecOn generalizing text written pending with
  | ind count inductionHypothesis =>
    have shorter {text' written' : Text} (behind : IsEncoding text' written')
        (less : text'.length < count) (unit : Utf8.Octet) :
        Utf8.decodeFrom pending (unit :: octets text') =
          Utf8.decodeFrom pending (unit :: octets written') :=
      Utf8.decodeFrom_cons_congr
        (fun _ sound => inductionHypothesis _ less behind sound rfl) unit pending
    cases encoding with
    | nil => rfl
    | @kept c text written behind =>
      rw [List.length_cons] at size
      by_cases percent : c = '%'
      · subst percent
        by_cases digits : StartsWithDigits text
        · obtain ⟨first, second, rest, high, low, rfl, isHigh, isLow⟩ := digits
          obtain ⟨_, rfl, inner⟩ := behind.digit_forth isHigh
          obtain ⟨_, rfl, innermost⟩ := inner.digit_forth isLow
          rw [octets_escape isHigh isLow, octets_escape isHigh isLow]
          refine shorter innermost ?_ _
          simp only [List.length_cons] at size
          omega
        · rw [octets_percent digits, octets_percent (mt behind.startsWithDigits_iff.mpr digits)]
          exact shorter behind (by omega) _
      · rw [octets_cons_of_ne percent, octets_cons_of_ne percent]
        exact shorter behind (by omega) _
    | @encoded c noPercent noDigit text written behind =>
      rw [List.length_cons] at size
      rw [octets_encodeChar, decodeFrom_encoded c sound, octets_cons_of_ne noPercent]
      exact shorter behind (by omega) _

theorem decode?_eq (encoding : IsEncoding text written) : decode? text = decode? written :=
  congrArg (List.mapM id) (encoding.decodeFrom_octets Utf8.isSound_none)

end IsEncoding

end Percent

end BookMarkup
