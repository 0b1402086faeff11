/-
This file gives the encoding of a target a form that reads character by character.
Encoding escapes every percent sign and then takes these escapes back; since no other
escape looks like that of a percent sign, a target is encoded by writing each of its
characters on its own, and a character is written either as itself or as escapes.
-/

import BookMarkup.Proofs.Text.Occurrence
import BookMarkup.Proofs.Url.Percent
import BookMarkup.Url.Clean
import Mathlib.Tactic.SplitIfs

namespace BookMarkup

namespace Url

open Percent

/-- What a character of a target is written as. -/
def encodeTargetChar (c : Char) : Text :=
  if c = '%' || isUnreserved c || targetChars.contains c then [c] else encodeChar c

/-! ### Escapes of other bytes than that of the percent sign -/

theorem hexDigit_eq_two {value : Nat} (small : value < 16) (equal : hexDigit value = '2') :
    value = 2 := by
  have only : ∀ value < 16, hexDigit value = '2' → value = 2 := by decide
  exact only value small equal

theorem hexDigit_eq_five {value : Nat} (small : value < 16) (equal : hexDigit value = '5') :
    value = 5 := by
  have only : ∀ value < 16, hexDigit value = '5' → value = 5 := by decide
  exact only value small equal

theorem hexDigit_ne_percent {value : Nat} (small : value < 16) : hexDigit value ≠ '%' := by
  have never : ∀ value < 16, hexDigit value ≠ '%' := by decide
  exact never value small

/-- The bytes of another character are not the byte of the percent sign. -/
theorem percent_not_mem_utf8EncodeChar {c : Char} (other : c ≠ '%') :
    ∀ byte ∈ String.utf8EncodeChar c, byte.toNat ≠ 0x25 := by
  have code : c.val.toNat ≠ 0x25 := fun equal => other (Char.ext (UInt32.toNat_inj.mp equal))
  intro byte member
  simp only [String.utf8EncodeChar] at member
  split_ifs at member with one two three <;>
    simp only [List.mem_cons, List.not_mem_nil, or_false] at member
  · rw [member, UInt8.toNat_ofNat']
    omega
  · rcases member with rfl | rfl <;> rw [UInt8.toNat_ofNat'] <;> omega
  · rcases member with rfl | rfl | rfl <;> rw [UInt8.toNat_ofNat'] <;> omega
  · rcases member with rfl | rfl | rfl | rfl <;> rw [UInt8.toNat_ofNat'] <;> omega

/-! ### Taking the escapes of percent signs back -/

/-- Replaces the escapes of percent signs. -/
def restorePercents (text : Text) : Text :=
  Text.replaceFrom "%25".toList ['%'] 0 text

theorem restorePercents_percent (rest : Text) :
    restorePercents ("%25".toList ++ rest) = '%' :: restorePercents rest := rfl

theorem restorePercents_cons_of_ne {head : Char} (other : head ≠ '%') (rest : Text) :
    restorePercents (head :: rest) = head :: restorePercents rest := by
  have escape : "%25".toList.head? = some '%' := by decide
  unfold restorePercents
  rw [Text.replaceFrom, Text.isPrefixOf_of_ne escape other.symm]
  rfl

theorem restorePercents_encodeByte {byte : UInt8} (other : byte.toNat ≠ 0x25) (rest : Text) :
    restorePercents (encodeByte byte ++ rest) = encodeByte byte ++ restorePercents rest := by
  have bound : byte.toNat < 256 := byte.toNat_lt
  have high : byte.toNat / 16 < 16 := by omega
  have low : byte.toNat % 16 < 16 := by omega
  have noEscape : "%25".toList.isPrefixOf (encodeByte byte ++ rest) = false := by
    show ('%' == '%' && ('2' == hexDigit (byte.toNat / 16) &&
      ('5' == hexDigit (byte.toNat % 16) && true))) = false
    by_cases two : '2' = hexDigit (byte.toNat / 16)
    · by_cases five : '5' = hexDigit (byte.toNat % 16)
      · have highTwo := hexDigit_eq_two high two.symm
        have lowFive := hexDigit_eq_five low five.symm
        omega
      · simp [five]
    · simp [two]
  have step : restorePercents (encodeByte byte ++ rest) =
      '%' :: restorePercents
        ([hexDigit (byte.toNat / 16), hexDigit (byte.toNat % 16)] ++ rest) := by
    have escaped : encodeByte byte ++ rest =
        '%' :: ([hexDigit (byte.toNat / 16), hexDigit (byte.toNat % 16)] ++ rest) := rfl
    rw [escaped] at noEscape ⊢
    unfold restorePercents
    rw [Text.replaceFrom, noEscape]
    rfl
  rw [step, List.cons_append, restorePercents_cons_of_ne (hexDigit_ne_percent high),
    List.cons_append, restorePercents_cons_of_ne (hexDigit_ne_percent low)]
  rfl

theorem restorePercents_encodeBytes (bytes : List UInt8)
    (others : ∀ byte ∈ bytes, byte.toNat ≠ 0x25) (rest : Text) :
    restorePercents (bytes.flatMap encodeByte ++ rest) =
      bytes.flatMap encodeByte ++ restorePercents rest := by
  induction bytes with
  | nil => rfl
  | cons byte bytes inductionHypothesis =>
    rw [List.flatMap_cons, List.append_assoc, List.append_assoc,
      restorePercents_encodeByte (others byte List.mem_cons_self),
      inductionHypothesis fun byte member => others byte (List.mem_cons_of_mem _ member)]

/-! ### Targets -/

/-- A target is encoded character by character. -/
theorem encodeTarget_eq_flatMap (target : Text) :
    encodeTarget target = target.flatMap encodeTargetChar := by
  show restorePercents (encode targetChars target) = _
  unfold encode
  induction target with
  | nil => rfl
  | cons head rest inductionHypothesis =>
    rw [List.flatMap_cons, List.flatMap_cons, ← inductionHypothesis]
    by_cases percent : head = '%'
    · subst percent
      exact restorePercents_percent _
    · unfold encodeTargetChar
      simp only [percent, decide_false, Bool.false_or]
      split_ifs with kept
      · exact restorePercents_cons_of_ne percent _
      · exact restorePercents_encodeBytes _ (percent_not_mem_utf8EncodeChar percent) _

/-- A character of a target is written as itself or as escapes. -/
theorem encodeTargetChar_cases (c : Char) :
    encodeTargetChar c = [c] ∨ (encodeTargetChar c).head? = some '%' := by
  unfold encodeTargetChar
  split_ifs with kept
  · exact Or.inl rfl
  · exact Or.inr (head?_encodeChar c)

end Url

end BookMarkup
