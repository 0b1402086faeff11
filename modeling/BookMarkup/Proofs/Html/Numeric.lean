/-
This file proves that a numeric reference gives the character whose code its digits spell.
The digits may be of either case and stand behind any number of zeros. The last digit is
taken off at the end, as the number is read, so the induction is on the number.
-/

import BookMarkup.Proofs.Html.CharRef
import BookMarkup.Proofs.Text.Letter
import BookMarkup.Text.Word

namespace BookMarkup

namespace CharRef

/-! ### Digits -/

theorem hexValue?_digitChar {value : Nat} (small : value < 16) :
    Percent.hexValue? (Nat.digitChar value) = some value := by
  have all : ∀ value < 16, Percent.hexValue? (Nat.digitChar value) = some value := by decide
  exact all value small

theorem isDigit_digitChar {value : Nat} (small : value < 10) :
    (Nat.digitChar value).isDigit = true := by
  have all : ∀ value < 10, (Nat.digitChar value).isDigit = true := by decide
  exact all value small

theorem hexValue?_toLower (c : Char) : Percent.hexValue? c.toLower = Percent.hexValue? c :=
  eq_of_toLower (by decide) c

theorem isDigit_toLower (c : Char) : c.toLower.isDigit = c.isDigit :=
  eq_of_toLower (by decide) c

/-! ### Numbers -/

theorem numberOf_append_digit (base : Nat) (digits : Text) (digit : Char) :
    numberOf base (digits ++ [digit]) =
      numberOf base digits * base + (Percent.hexValue? digit).getD 0 := by
  unfold numberOf
  rw [List.foldl_append]
  rfl

/-- The digits of a number spell the number. -/
theorem numberOf_toDigits {base : Nat} (atLeast : 2 ≤ base) (atMost : base ≤ 16) (number : Nat) :
    numberOf base (Nat.toDigits base number) = number := by
  induction number using Nat.strongRecOn with
  | ind number inductionHypothesis =>
    rw [Nat.toDigits_eq_if (by omega)]
    split_ifs with single
    · show 0 * base + (Percent.hexValue? number.digitChar).getD 0 = number
      rw [hexValue?_digitChar (by omega), Nat.zero_mul, Nat.zero_add]
      rfl
    · have last : number % base < base := Nat.mod_lt _ (by omega)
      rw [numberOf_append_digit, hexValue?_digitChar (by omega),
        inductionHypothesis _ (Nat.div_lt_self (by omega) (by omega))]
      exact Nat.div_add_mod' number base

/-- Zeros in front of a number do not count. -/
theorem numberOf_zeros (base zeros : Nat) (digits : Text) :
    numberOf base (List.replicate zeros '0' ++ digits) = numberOf base digits := by
  induction zeros with
  | zero => rfl
  | succ zeros inductionHypothesis =>
    have first : numberOf base ('0' :: (List.replicate zeros '0' ++ digits)) =
        numberOf base (List.replicate zeros '0' ++ digits) := by
      show List.foldl _ (0 * base + 0) _ = _
      rw [Nat.zero_mul]
      rfl
    rw [List.replicate_succ, List.cons_append, first, inductionHypothesis]

theorem numberOf_lower (base : Nat) (digits : Text) :
    numberOf base (Text.lower digits) = numberOf base digits := by
  unfold numberOf Text.lower
  rw [List.foldl_map]
  simp only [hexValue?_toLower]

/-- Whether digits spell a number in a base, in either case and behind any number of zeros. -/
def IsNumeral (base number : Nat) (digits : Text) : Prop :=
  ∃ zeros, Text.lower digits = List.replicate zeros '0' ++ Nat.toDigits base number

theorem numberOf_of_isNumeral {base number : Nat} {digits : Text} (atLeast : 2 ≤ base)
    (atMost : base ≤ 16) (numeral : IsNumeral base number digits) :
    numberOf base digits = number := by
  obtain ⟨zeros, spelled⟩ := numeral
  rw [← numberOf_lower, spelled, numberOf_zeros, numberOf_toDigits atLeast atMost]

theorem ne_nil_of_isNumeral {base number : Nat} {digits : Text}
    (numeral : IsNumeral base number digits) : digits ≠ [] := by
  obtain ⟨zeros, spelled⟩ := numeral
  rintro rfl
  exact Nat.toDigits_ne_nil (List.append_eq_nil_iff.mp spelled.symm).2

/-- A digit of a number stands for less than the base. -/
theorem exists_value_of_mem_toDigits {base : Nat} (atLeast : 2 ≤ base) {number : Nat} {c : Char}
    (member : c ∈ Nat.toDigits base number) : ∃ value < base, c = Nat.digitChar value := by
  induction number using Nat.strongRecOn with
  | ind number inductionHypothesis =>
    rw [Nat.toDigits_eq_if (by omega)] at member
    split_ifs at member with single
    · exact ⟨number, single, List.mem_singleton.mp member⟩
    · rcases List.mem_append.mp member with front | last
      · exact inductionHypothesis _ (Nat.div_lt_self (by omega) (by omega)) front
      · exact ⟨_, Nat.mod_lt _ (by omega), List.mem_singleton.mp last⟩

theorem exists_value_of_isNumeral {base number : Nat} {digits : Text} (atLeast : 2 ≤ base)
    (numeral : IsNumeral base number digits) {c : Char} (member : c ∈ digits) :
    ∃ value < base, c.toLower = Nat.digitChar value := by
  obtain ⟨zeros, spelled⟩ := numeral
  have small : c.toLower ∈ Text.lower digits := List.mem_map_of_mem member
  rw [spelled] at small
  rcases List.mem_append.mp small with zero | digit
  · exact ⟨0, by omega, List.eq_of_mem_replicate zero⟩
  · exact exists_value_of_mem_toDigits atLeast digit

theorem isHexDigit_of_isNumeral {number : Nat} {digits : Text}
    (numeral : IsNumeral 16 number digits) : ∀ c ∈ digits, isHexDigit c = true := by
  intro c member
  obtain ⟨value, small, digit⟩ := exists_value_of_isNumeral (by omega) numeral member
  rw [isHexDigit, ← hexValue?_toLower, digit, hexValue?_digitChar small]
  rfl

theorem isDigit_of_isNumeral {number : Nat} {digits : Text}
    (numeral : IsNumeral 10 number digits) : ∀ c ∈ digits, c.isDigit = true := by
  intro c member
  obtain ⟨value, small, digit⟩ := exists_value_of_isNumeral (by omega) numeral member
  rw [← isDigit_toLower, digit, isDigit_digitChar small]

/-! ### References -/

/-- Digits in front of a semicolon are read to the last. -/
theorem readDigits_terminated {base opening : Nat} {isDigit : Char → Bool} {digits : Text}
    (nonempty : digits ≠ []) (all : ∀ c ∈ digits, isDigit c = true) (out : isDigit ';' = false)
    (most : Option Nat) (rest : Text) :
    readDigits false base opening isDigit most (digits ++ ';' :: rest) =
      some (ofCodePoint (numberOf base digits), opening + digits.length + 1) := by
  have run : (digits ++ ';' :: rest).takeWhile isDigit = digits := by
    rw [List.takeWhile_append_of_pos all, List.takeWhile_cons, out]
    exact List.append_nil digits
  have behind : (digits ++ ';' :: rest).dropWhile isDigit = ';' :: rest := by
    rw [List.dropWhile_append_of_pos all, List.dropWhile_cons, out]
    rfl
  have some' : digits.isEmpty = false := List.isEmpty_eq_false_iff.mpr nonempty
  simp only [readDigits, run, behind, some']
  rfl

/-- A printable ASCII character is what its code stands for. -/
theorem ofCodePoint_printable {c : Char} (printable : 0x20 ≤ c.toNat ∧ c.toNat < 0x7F) :
    ofCodePoint c.toNat = [c] := by
  have allowed : isForbidden c.toNat = false := by
    have all : ∀ code < 0x7F, 0x20 ≤ code → isForbidden code = false := by decide
    exact all c.toNat printable.2 printable.1
  rw [ofCodePoint, if_neg (by omega), if_neg (by omega), if_neg (by omega), allowed,
    Char.ofNat_toNat]
  rfl

/-- A reference is decoded to its text in front of what stands behind it. -/
theorem decode_of_read? {body value rest : Text} {taken : Nat} (whole : taken = body.length)
    (reading : read? false (body ++ rest) = some (value, taken)) :
    decode ('&' :: (body ++ rest)) = value ++ decode rest := by
  rw [decode_ampersand, reading]
  show value ++ decode ((body ++ rest).drop taken) = value ++ decode rest
  rw [whole, List.drop_left]

variable {c : Char} (printable : 0x20 ≤ c.toNat ∧ c.toNat < 0x7F) {digits : Text}

include printable

/-- Where the digits of a number are read behind a mark, they are decoded to the printable character
whose code they spell. -/
theorem decode_numeral {base : Nat} (atLeast : 2 ≤ base) (atMost : base ≤ 16)
    {isDigit : Char → Bool} (out : isDigit ';' = false) (numeral : IsNumeral base c.toNat digits)
    (all : ∀ digit ∈ digits, isDigit digit = true) {most : Option Nat} (mark : Text) {rest : Text}
    (reading : read? false (mark ++ (digits ++ ';' :: rest)) =
      readDigits false base mark.length isDigit most (digits ++ ';' :: rest)) :
    decode ('&' :: (mark ++ (digits ++ [';']) ++ rest)) = c :: decode rest := by
  rw [readDigits_terminated (ne_nil_of_isNumeral numeral) all out,
    numberOf_of_isNumeral atLeast atMost numeral, ofCodePoint_printable printable] at reading
  have spelled : mark ++ (digits ++ [';']) ++ rest = mark ++ (digits ++ ';' :: rest) := by
    rw [List.append_assoc, List.append_assoc, List.singleton_append]
  have whole : mark.length + digits.length + 1 = (mark ++ (digits ++ [';'])).length := by
    rw [List.length_append, List.length_append, List.length_singleton, Nat.add_assoc]
  rw [← spelled] at reading
  exact decode_of_read? whole reading

/-- A decimal reference gives the printable character whose code it spells. -/
theorem decode_decimal (numeral : IsNumeral 10 c.toNat digits) (rest : Text) :
    decode ('&' :: ('#' :: (digits ++ [';']) ++ rest)) = c :: decode rest := by
  have all := isDigit_of_isNumeral numeral
  obtain ⟨first, others, rfl⟩ := List.exists_cons_of_ne_nil (ne_nil_of_isNumeral numeral)
  have isDigit := all first List.mem_cons_self
  have decimal : read? false ('#' :: (first :: others ++ ';' :: rest)) =
      readDigits false 10 1 Char.isDigit (some 7) (first :: others ++ ';' :: rest) := by
    refine read?_decimal false ?_ ?_ _ <;> rintro rfl <;> cases isDigit
  exact decode_numeral printable (by omega) (by omega) rfl numeral all ['#'] decimal

/-- A hexadecimal reference gives the printable character whose code it spells. -/
theorem decode_hexadecimal {mark : Char} (isMark : mark = 'x' ∨ mark = 'X')
    (numeral : IsNumeral 16 c.toNat digits) (rest : Text) :
    decode ('&' :: ('#' :: mark :: (digits ++ [';']) ++ rest)) = c :: decode rest := by
  have hexadecimal : read? false ('#' :: mark :: (digits ++ ';' :: rest)) =
      readDigits false 16 2 isHexDigit none (digits ++ ';' :: rest) := by
    rcases isMark with rfl | rfl <;> rfl
  exact decode_numeral printable (by omega) (by omega) rfl numeral
    (isHexDigit_of_isNumeral numeral) ['#', mark] hexadecimal

end CharRef

end BookMarkup
