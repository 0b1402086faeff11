/-
This file proves that the bytes of a character are decoded to that character. The first
byte of a longer form continues no character, so a character that has begun before it is
reported as malformed, exactly as it is in front of a character that was not encoded.
Behind any input, the bytes of a character can therefore stand for the character.
-/

import BookMarkup.Text.Utf8
import Mathlib.Tactic.SplitIfs

namespace BookMarkup

namespace Utf8

/-! ### What may have begun -/

/-- Whether no character that has begun is continued by the first byte of another one. -/
def IsSound (pending : Option Pending) : Prop :=
  ∀ begun ∈ pending, begun.greatest < 0xC0

theorem isSound_none : IsSound none := fun _ member => by cases member

theorem isSound_start (byte : Nat) : IsSound (start byte).2 := by
  unfold start begin?
  split_ifs <;> intro begun member <;> cases member <;> (dsimp only; omega)

theorem isSound_resume (pending : Pending) (byte : Nat) : IsSound (resume pending byte).2 := by
  unfold resume
  split_ifs
  · exact isSound_none
  · intro begun member
    cases member
    dsimp only
    omega
  · exact isSound_start byte

/-- Two inputs that are decoded alike behind everything are decoded alike behind one more unit. -/
theorem decodeFrom_cons_congr {first second : List Octet}
    (alike : ∀ pending, IsSound pending → decodeFrom pending first = decodeFrom pending second)
    (unit : Octet) (pending : Option Pending) :
    decodeFrom pending (unit :: first) = decodeFrom pending (unit :: second) := by
  have none' := alike none isSound_none
  cases unit with
  | char c => cases pending <;> simp only [decodeFrom, none']
  | byte value =>
    cases pending with
    | none => simp only [decodeFrom, alike _ (isSound_start value.toNat)]
    | some begun => simp only [decodeFrom, alike _ (isSound_resume begun value.toNat)]

/-! ### The bytes of a longer form -/

theorem decodeFrom_char (pending : Option Pending) (c : Char) (rest : List Octet) :
    decodeFrom pending (.char c :: rest) =
      pending.toList.map (fun _ => none) ++ some c :: decodeFrom none rest := by
  cases pending <;> rfl

/-- A first byte begins a character and breaks off the one before it. -/
theorem decodeFrom_first {pending : Option Pending} (sound : IsSound pending) {lead : UInt8}
    {begun : Pending} (begins : begin? lead.toNat = some begun) (rest : List Octet) :
    decodeFrom pending (.byte lead :: rest) =
      pending.toList.map (fun _ => none) ++ decodeFrom (some begun) rest := by
  have large : 0xC0 ≤ lead.toNat := by
    unfold begin? at begins
    split_ifs at begins <;> omega
  have started : start lead.toNat = ([], some begun) := by
    rw [start, if_neg (by omega), begins]
  cases pending with
  | none =>
    rw [decodeFrom, started]
    rfl
  | some earlier =>
    have broken : resume earlier lead.toNat = ([none], some begun) := by
      have bound := sound earlier rfl
      rw [resume, if_neg (by omega), started]
    rw [decodeFrom, broken]
    rfl

variable {pending : Pending} {byte : UInt8}

theorem decodeFrom_next (count : Nat) (owed : pending.owed = count + 2)
    (within : pending.least ≤ byte.toNat ∧ byte.toNat ≤ pending.greatest) (rest : List Octet) :
    decodeFrom (some pending) (.byte byte :: rest) =
      decodeFrom (some ⟨count + 1, 0x80, 0xBF, pending.bits * 64 + byte.toNat % 64⟩) rest := by
  have resumed : resume pending byte.toNat =
      ([], some ⟨count + 1, 0x80, 0xBF, pending.bits * 64 + byte.toNat % 64⟩) := by
    unfold resume
    rw [if_pos within, owed]
    exact if_neg (by omega)
  rw [decodeFrom, resumed]
  rfl

theorem decodeFrom_last (owed : pending.owed = 1)
    (within : pending.least ≤ byte.toNat ∧ byte.toNat ≤ pending.greatest) (rest : List Octet) :
    decodeFrom (some pending) (.byte byte :: rest) =
      some (Char.ofNat (pending.bits * 64 + byte.toNat % 64)) :: decodeFrom none rest := by
  have resumed : resume pending byte.toNat =
      ([some (Char.ofNat (pending.bits * 64 + byte.toNat % 64))], none) := by
    unfold resume
    rw [if_pos within, owed]
    rfl
  rw [decodeFrom, resumed]
  rfl

/-- The first byte of a form of three bytes admits the second one of every character that needs
three and is no surrogate. -/
theorem begin?_three (lead second : Nat) (inRange : 0xE0 ≤ lead ∧ lead ≤ 0xEF)
    (continues : 0x80 ≤ second ∧ second ≤ 0xBF) (notOverlong : lead = 0xE0 → 0xA0 ≤ second)
    (noSurrogate : lead = 0xED → second ≤ 0x9F) :
    ∃ begun, begin? lead = some begun ∧ begun.owed = 2 ∧ begun.bits = lead - 0xE0 ∧
      begun.least ≤ second ∧ second ≤ begun.greatest := by
  by_cases overlong : lead = 0xE0
  · subst overlong
    exact ⟨⟨2, 0xA0, 0xBF, 0⟩, rfl, rfl, rfl, notOverlong rfl, continues.2⟩
  by_cases surrogate : lead = 0xED
  · subst surrogate
    exact ⟨⟨2, 0x80, 0x9F, 0xD⟩, rfl, rfl, rfl, continues.1, noSurrogate rfl⟩
  · refine ⟨⟨2, 0x80, 0xBF, lead - 0xE0⟩, ?_, rfl, rfl, continues⟩
    rw [begin?, if_neg (by omega), if_neg overlong, if_neg surrogate, if_pos (by omega)]

/-- The first byte of a form of four bytes admits the second one of every character that needs
four. -/
theorem begin?_four (lead second : Nat) (inRange : 0xF0 ≤ lead ∧ lead ≤ 0xF4)
    (continues : 0x80 ≤ second ∧ second ≤ 0xBF) (notOverlong : lead = 0xF0 → 0x90 ≤ second)
    (inUnicode : lead = 0xF4 → second ≤ 0x8F) :
    ∃ begun, begin? lead = some begun ∧ begun.owed = 3 ∧ begun.bits = lead - 0xF0 ∧
      begun.least ≤ second ∧ second ≤ begun.greatest := by
  by_cases overlong : lead = 0xF0
  · subst overlong
    exact ⟨⟨3, 0x90, 0xBF, 0⟩, rfl, rfl, rfl, notOverlong rfl, continues.2⟩
  by_cases highest : lead = 0xF4
  · subst highest
    exact ⟨⟨3, 0x80, 0x8F, 4⟩, rfl, rfl, rfl, continues.1, inUnicode rfl⟩
  · refine ⟨⟨3, 0x80, 0xBF, lead - 0xF0⟩, ?_, rfl, rfl, continues⟩
    rw [begin?, if_neg (by omega), if_neg (by omega), if_neg (by omega), if_neg (by omega),
      if_neg overlong, if_pos (by omega)]

/-! ### Characters -/

/-- The byte of an ASCII character is decoded to the character. -/
theorem decode_byte {c : Char} (small : c.toNat < 0x80) (rest : List Octet) :
    decode (.byte (UInt8.ofNat c.toNat) :: rest) = some c :: decode rest := by
  have byte : (UInt8.ofNat c.toNat).toNat = c.toNat := by
    rw [UInt8.toNat_ofNat']
    omega
  rw [decode, decodeFrom, byte, start, if_pos small, Char.ofNat_toNat]
  rfl

theorem code_of_char (c : Char) :
    c.toNat ≤ 0x10FFFF ∧ ¬(0xD800 ≤ c.toNat ∧ c.toNat ≤ 0xDFFF) := by
  have valid : c.toNat < 0xD800 ∨ 0xDFFF < c.toNat ∧ c.toNat < 0x110000 := c.valid
  omega

/-- The bytes of a character that is not ASCII are decoded like the character itself. -/
theorem decodeFrom_utf8EncodeChar {c : Char} (long : 0x80 ≤ c.toNat) {pending : Option Pending}
    (sound : IsSound pending) (rest : List Octet) :
    decodeFrom pending ((String.utf8EncodeChar c).map .byte ++ rest) =
      decodeFrom pending (.char c :: rest) := by
  obtain ⟨most, noSurrogate⟩ := code_of_char c
  have code : c.val.toNat = c.toNat := rfl
  have whole {bits : Nat} (equal : bits = c.toNat) : Char.ofNat bits = c := by
    rw [equal, Char.ofNat_toNat]
  rw [decodeFrom_char]
  simp only [String.utf8EncodeChar, code]
  split_ifs with one two three
  · omega
  · have begins : begin? (UInt8.ofNat (c.toNat / 64 % 32 + 192)).toNat =
        some ⟨1, 0x80, 0xBF, c.toNat / 64 % 32⟩ := by
      have bits : (c.toNat / 64 % 32 + 192) % 2 ^ 8 - 0xC0 = c.toNat / 64 % 32 := by omega
      rw [UInt8.toNat_ofNat', begin?, if_pos (by omega), bits]
    simp only [List.map_cons, List.map_nil, List.cons_append, List.nil_append]
    rw [decodeFrom_first sound begins, decodeFrom_last rfl, whole]
    · simp only [UInt8.toNat_ofNat']
      omega
    · simp only [UInt8.toNat_ofNat']
      omega
  · obtain ⟨begun, begins, owed, bits, within⟩ :=
      begin?_three (UInt8.ofNat (c.toNat / 4096 % 16 + 224)).toNat
        (UInt8.ofNat (c.toNat / 64 % 64 + 128)).toNat
        (by rw [UInt8.toNat_ofNat']; omega) (by rw [UInt8.toNat_ofNat']; omega)
        (by rw [UInt8.toNat_ofNat', UInt8.toNat_ofNat']; omega)
        (by rw [UInt8.toNat_ofNat', UInt8.toNat_ofNat']; omega)
    simp only [List.map_cons, List.map_nil, List.cons_append, List.nil_append]
    rw [decodeFrom_first sound begins, decodeFrom_next 0 owed within, decodeFrom_last rfl, whole]
    · simp only [bits, UInt8.toNat_ofNat']
      omega
    · simp only [UInt8.toNat_ofNat']
      omega
  · obtain ⟨begun, begins, owed, bits, within⟩ :=
      begin?_four (UInt8.ofNat (c.toNat / 262144 % 8 + 240)).toNat
        (UInt8.ofNat (c.toNat / 4096 % 64 + 128)).toNat
        (by rw [UInt8.toNat_ofNat']; omega) (by rw [UInt8.toNat_ofNat']; omega)
        (by rw [UInt8.toNat_ofNat', UInt8.toNat_ofNat']; omega)
        (by rw [UInt8.toNat_ofNat', UInt8.toNat_ofNat']; omega)
    simp only [List.map_cons, List.map_nil, List.cons_append, List.nil_append]
    rw [decodeFrom_first sound begins, decodeFrom_next 1 owed within, decodeFrom_next 0 rfl,
      decodeFrom_last rfl, whole]
    · simp only [bits, UInt8.toNat_ofNat']
      omega
    · simp only [UInt8.toNat_ofNat']
      omega
    · simp only [UInt8.toNat_ofNat']
      omega

end Utf8

end BookMarkup
