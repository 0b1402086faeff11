/-
This file says which texts are not decoded because a decimal reference has too many
digits. Only the digits themselves count, wherever the reference stands and whatever
stands behind it, and leading zeros count like all others. A text without such a
reference is decoded.
-/

import BookMarkup.Html.CharRef
import Mathlib.Tactic.SplitIfs

namespace BookMarkup

namespace CharRef

/-- Whether a text holds a decimal reference of more than 4300 digits. -/
def HoldsLongNumber (text : Text) : Prop :=
  ∃ front digits behind, text = front ++ '&' :: '#' :: (digits ++ behind) ∧
    (∀ c ∈ digits, c.isDigit = true) ∧ 4300 < digits.length

theorem HoldsLongNumber.length_lt {text : Text} (long : HoldsLongNumber text) :
    4300 < text.length := by
  obtain ⟨front, digits, behind, rfl, -, many⟩ := long
  simp only [List.length_append, List.length_cons]
  omega

theorem HoldsLongNumber.cons {text : Text} (long : HoldsLongNumber text) (head : Char) :
    HoldsLongNumber (head :: text) := by
  obtain ⟨front, digits, behind, rfl, all, many⟩ := long
  exact ⟨head :: front, digits, behind, rfl, all, many⟩

/-! ### Looking for a number -/

theorem longNumber?_cons_of_ne {head : Char} (other : head ≠ '&') (rest : Text) :
    longNumber? (head :: rest) = longNumber? rest := by
  rw [longNumber?, if_neg fun both => other both.1]

/-- A text without an ampersand plays no part in front of another one. -/
theorem longNumber?_append_of_plain {front : Text} (plain : '&' ∉ front) (rest : Text) :
    longNumber? (front ++ rest) = longNumber? rest := by
  induction front with
  | nil => rfl
  | cons head front inductionHypothesis =>
    simp only [List.mem_cons, not_or] at plain
    rw [List.cons_append, longNumber?_cons_of_ne (Ne.symm plain.1), inductionHypothesis plain.2]

/-- All the digits behind the number sign count. -/
theorem decimalDigits_append {digits : Text} (all : ∀ c ∈ digits, c.isDigit = true)
    (behind : Text) :
    decimalDigits ('#' :: (digits ++ behind)) =
      digits.length + (behind.takeWhile Char.isDigit).length := by
  show ((digits ++ behind).takeWhile Char.isDigit).length = _
  rw [List.takeWhile_append_of_pos all, List.length_append]

/-- A number is too long for the conversion if it stands in the text. -/
theorem longNumber?_isSome_iff (text : Text) :
    (longNumber? text).isSome = true ↔ HoldsLongNumber text := by
  constructor
  · intro found
    induction text with
    | nil => cases found
    | cons head rest inductionHypothesis =>
      rw [longNumber?] at found
      split_ifs at found with starts
      · obtain ⟨rfl, many⟩ := starts
        unfold decimalDigits at many
        split at many
        · next behind =>
          exact ⟨[], behind.takeWhile Char.isDigit, behind.dropWhile Char.isDigit, by
            rw [List.takeWhile_append_dropWhile, List.nil_append],
            fun c member => List.all_eq_true.mp List.all_takeWhile c member, many⟩
        · exact absurd many (Nat.not_lt_zero _)
      · exact (inductionHypothesis found).cons head
  · rintro ⟨front, digits, behind, rfl, all, many⟩
    induction front with
    | nil =>
      have count := decimalDigits_append all behind
      rw [List.nil_append, longNumber?, if_pos]
      · rfl
      · refine ⟨rfl, ?_⟩
        rw [count, mostDigits]
        omega
    | cons head front inductionHypothesis =>
      rw [List.cons_append, longNumber?]
      split_ifs
      · rfl
      · exact inductionHypothesis

theorem longNumber?_eq_none_iff (text : Text) :
    longNumber? text = none ↔ ¬ HoldsLongNumber text := by
  rw [← longNumber?_isSome_iff, Bool.not_eq_true, Option.isSome_eq_false_iff,
    Option.isNone_iff_eq_none]

end CharRef

end BookMarkup
