/-
This file proves that no word character is one of those which are taken off the ends of a
text: neither a blank nor a quote mark.
-/

import BookMarkup.Quote
import BookMarkup.Text.Word
import Mathlib.Tactic.SplitIfs

namespace BookMarkup

/-- The code points of the blanks. -/
def blankCodes : List Nat :=
  List.range' 0x09 5 ++ List.range' 0x1C 5 ++ [0x85, 0xA0, 0x1680] ++ List.range' 0x2000 11 ++
    [0x2028, 0x2029, 0x202F, 0x205F, 0x3000]

theorem mem_blankCodes {c : Char} (blank : isBlank c = true) : c.toNat ∈ blankCodes := by
  simp only [isBlank, Bool.or_eq_true, Bool.and_eq_true, decide_eq_true_eq, beq_iff_eq] at blank
  simp only [blankCodes, List.mem_append, List.mem_range'_1, List.mem_cons, List.not_mem_nil,
    or_false]
  omega

/-- A word character is not blank. -/
theorem isBlank_eq_false_of_isWord {c : Char} (word : isWord c = true) : isBlank c = false := by
  have none : ∀ code ∈ blankCodes, isWord (Char.ofNat code) = false := by decide +kernel
  rw [← Bool.not_eq_true]
  intro blank
  have plain := none c.toNat (mem_blankCodes blank)
  rw [Char.ofNat_toNat, word] at plain
  cases plain

theorem isWord_quoteMark : ∀ mark ∈ ['"', '\u201C', '\u201D', '\u201E'], isWord mark = false := by
  decide +kernel

/-- A word character is no quote mark. -/
theorem not_mark_of_isWord {c : Char} (word : isWord c = true) :
    Quote.isOpeningMark c = false ∧ Quote.isClosingMark c = false := by
  have other (mark : Char) (among : mark ∈ ['"', '\u201C', '\u201D', '\u201E']) : c ≠ mark := by
    rintro rfl
    rw [isWord_quoteMark c among] at word
    cases word
  simp only [Quote.isOpeningMark, Quote.isClosingMark, Bool.or_eq_false_iff, beq_eq_false_iff_ne]
  exact ⟨⟨⟨other _ (by decide), other _ (by decide)⟩, other _ (by decide)⟩,
    ⟨other _ (by decide), other _ (by decide)⟩, other _ (by decide)⟩

end BookMarkup
