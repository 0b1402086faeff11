/-
This file proves how character references are decoded piece by piece. Every other
character than an ampersand stands for itself. An ampersand that starts a reference
which an escaped text keeps is read with the characters up to its semicolon alone, so
what stands behind the semicolon plays no part. Escaped characters are decoded to
themselves.
-/

import BookMarkup.Html.CharRef
import BookMarkup.Html.Escape
import Mathlib.Tactic.ByContra
import Mathlib.Tactic.SplitIfs

namespace BookMarkup

namespace CharRef

/-! ### One step of decoding -/

theorem decodeFrom_eq_drop (strict : Bool) (skip : Nat) (text : Text) :
    decodeFrom strict skip text = decodeFrom strict 0 (text.drop skip) := by
  induction text generalizing skip with
  | nil => simp [decodeFrom]
  | cons head rest inductionHypothesis =>
    cases skip with
    | zero => rfl
    | succ skip => exact inductionHypothesis skip

theorem decode_cons_of_ne {head : Char} (other : head ≠ '&') (rest : Text) :
    decode (head :: rest) = head :: decode rest := by
  rw [decode, decodeFrom, if_neg other]
  rfl

/-- An ampersand is decoded with the reference that it starts, if it starts one. -/
theorem decode_ampersand (rest : Text) :
    decode ('&' :: rest) =
      match read? false rest with
      | some (value, taken) => value ++ decode (rest.drop taken)
      | none => '&' :: decode rest := by
  rw [decode, decodeFrom, if_pos rfl]
  cases read? false rest with
  | none => rfl
  | some reading =>
    show reading.1 ++ decodeFrom false reading.2 rest = reading.1 ++ decode (rest.drop reading.2)
    rw [decodeFrom_eq_drop, decode]

/-! ### References that a semicolon ends -/

/-- What stands between an ampersand and the semicolon of a reference that escaping keeps: an
optional number sign and word characters. -/
def IsBody (front : Text) : Prop :=
  ∃ word, (front = word ∨ front = '#' :: word) ∧ word ≠ [] ∧ ∀ c ∈ word, isWord c = true

/-- Reading up to a character that a class leaves out does not look behind it. -/
theorem takeWhile_append_stop (holds : Char → Bool) {stop : Char} (out : holds stop = false)
    (front rest : Text) :
    (front ++ stop :: rest).takeWhile holds = front.takeWhile holds := by
  induction front with
  | nil => simp [out]
  | cons head front inductionHypothesis =>
    simp only [List.cons_append, List.takeWhile_cons, inductionHypothesis]

theorem head?_dropWhile_append_stop (holds : Char → Bool) {stop : Char}
    (out : holds stop = false) (front rest : Text) :
    ((front ++ stop :: rest).dropWhile holds).head? = (front.dropWhile holds ++ [stop]).head? := by
  induction front with
  | nil => simp [out]
  | cons head front inductionHypothesis =>
    simp only [List.cons_append, List.dropWhile_cons]
    split
    · exact inductionHypothesis
    · rfl

theorem head?_drop_append_cons {count : Nat} {front : Text} (within : count ≤ front.length)
    (stop : Char) (rest : Text) :
    ((front ++ stop :: rest).drop count).head? = (front.drop count ++ [stop]).head? := by
  rw [List.drop_append_of_le_length within]
  cases front.drop count <;> rfl

theorem readDigits_append_semicolon (strict : Bool) (base opening : Nat) {isDigit : Char → Bool}
    (out : isDigit ';' = false) (most : Option Nat) (front rest : Text) :
    readDigits strict base opening isDigit most (front ++ ';' :: rest) =
      readDigits strict base opening isDigit most (front ++ [';']) := by
  simp only [readDigits, takeWhile_append_stop isDigit out, head?_dropWhile_append_stop isDigit out]

theorem readName_append_semicolon (strict : Bool) (front rest : Text) :
    readName strict (front ++ ';' :: rest) = readName strict (front ++ [';']) := by
  have out : isNameChar ';' = false := by decide
  have within : ((front.takeWhile isNameChar).take 32).length ≤ front.length :=
    Nat.le_trans (List.length_take_le' 32 _) (List.takeWhile_prefix isNameChar).length_le
  simp only [readName, takeWhile_append_stop isNameChar out, head?_drop_append_cons within]

theorem read?_of_no_sign (strict : Bool) {first : Char} (noSign : first ≠ '#') (behind : Text) :
    read? strict (first :: behind) = readName strict (first :: behind) := by
  unfold read?
  split <;> simp_all

theorem read?_decimal (strict : Bool) {first : Char} (noSmall : first ≠ 'x')
    (noCapital : first ≠ 'X') (behind : Text) :
    read? strict ('#' :: first :: behind) =
      readDigits strict 10 1 Char.isDigit (some 7) (first :: behind) := by
  unfold read?
  split <;> simp_all

/-- A reference is read without a look at what stands behind its semicolon. -/
theorem read?_append_semicolon (strict : Bool) {front : Text} (body : IsBody front)
    (rest : Text) : read? strict (front ++ ';' :: rest) = read? strict (front ++ [';']) := by
  obtain ⟨word, shape, nonempty, words⟩ := body
  obtain ⟨first, others, rfl⟩ := List.exists_cons_of_ne_nil nonempty
  rcases shape with rfl | rfl
  · have noSign : first ≠ '#' := by
      rintro rfl
      exact absurd (words '#' List.mem_cons_self) (by decide)
    rw [List.cons_append, List.cons_append, read?_of_no_sign strict noSign,
      read?_of_no_sign strict noSign, ← List.cons_append, ← List.cons_append,
      readName_append_semicolon]
  · by_cases small : first = 'x'
    · subst small
      exact readDigits_append_semicolon strict 16 2 (by decide) none others rest
    · by_cases capital : first = 'X'
      · subst capital
        exact readDigits_append_semicolon strict 16 2 (by decide) none others rest
      · have decimal (behind : Text) := read?_decimal strict small capital (others ++ ';' :: behind)
        exact (decimal rest).trans ((readDigits_append_semicolon strict 10 1 (by decide) (some 7)
          (first :: others) rest).trans (decimal []).symm)

/-! ### How far a reference reaches -/

theorem readDigits_taken_le {strict : Bool} {base opening : Nat} {isDigit : Char → Bool}
    {most : Option Nat} {text value : Text} {taken : Nat}
    (reading : readDigits strict base opening isDigit most text = some (value, taken)) :
    taken ≤ opening + text.length := by
  simp only [readDigits] at reading
  have whole := congrArg List.length (List.takeWhile_append_dropWhile (p := isDigit) (l := text))
  rw [List.length_append] at whole
  split at reading
  · cases reading
  · simp only [Option.some.injEq, Prod.mk.injEq] at reading
    rw [← reading.2]
    split_ifs with terminated
    · have behind : (text.dropWhile isDigit).length ≠ 0 := by
        intro empty
        rw [List.length_eq_zero_iff] at empty
        simp [empty] at terminated
      omega
    · omega

theorem lookup?_taken_le {run value : Text} {terminated : Bool} {taken : Nat}
    (known : lookup? run terminated = some (value, taken)) :
    taken ≤ run.length + if terminated then 1 else 0 := by
  simp only [lookup?] at known
  split at known
  · next found =>
    have isTerminated : terminated = true := by
      by_contra open'
      simp [open'] at found
    simp only [Option.some.injEq, Prod.mk.injEq] at known
    rw [← known.2, isTerminated]
    exact Nat.le_refl _
  · simp only [Option.map_eq_some_iff, Prod.mk.injEq] at known
    obtain ⟨row, found, -, rfl⟩ := known
    have isFront := List.find?_some found
    have shorter := (List.isPrefixOf_iff_prefix.mp isFront).length_le
    omega

theorem readName_taken_le {strict : Bool} {text value : Text} {taken : Nat}
    (reading : readName strict text = some (value, taken)) : taken ≤ text.length := by
  simp only [readName] at reading
  split at reading
  · cases reading
  · have reach := lookup?_taken_le reading
    have within : ((text.takeWhile isNameChar).take 32).length ≤ text.length :=
      Nat.le_trans (List.length_take_le' 32 _) (List.takeWhile_prefix isNameChar).length_le
    split at reach
    · next terminated =>
      have behind : (text.drop ((text.takeWhile isNameChar).take 32).length).length ≠ 0 := by
        intro empty
        rw [List.length_eq_zero_iff.mp empty] at terminated
        cases terminated
      rw [List.length_drop] at behind
      omega
    · omega

/-- A reference takes no more characters than there are. -/
theorem read?_taken_le {strict : Bool} {text value : Text} {taken : Nat}
    (reading : read? strict text = some (value, taken)) : taken ≤ text.length := by
  unfold read? at reading
  split at reading
  · have reach := readDigits_taken_le reading
    simp only [List.length_cons]
    omega
  · have reach := readDigits_taken_le reading
    simp only [List.length_cons]
    omega
  · have reach := readDigits_taken_le reading
    simp only [List.length_cons]
    omega
  · exact readName_taken_le reading

/-! ### Escaped characters -/

/-- Every character is decoded from its escaped form. -/
theorem decode_escapeChar (c : Char) (rest : Text) :
    decode (Html.escapeChar c ++ rest) = c :: decode rest := by
  have reference (front : Text) (body : IsBody front)
      (known : read? false (front ++ [';']) = some ([c], front.length + 1)) :
      decode ('&' :: front ++ ';' :: rest) = c :: decode rest := by
    rw [List.cons_append, decode_ampersand, read?_append_semicolon false body, known]
    simp
  have word (front : Text) (nonempty : front ≠ []) (words : front.all isWord = true) :
      IsBody front :=
    ⟨front, Or.inl rfl, nonempty, fun c member => List.all_eq_true.mp words c member⟩
  unfold Html.escapeChar
  split_ifs with ampersand less greater quote apostrophe
  · subst ampersand
    exact reference "amp".toList (word _ (by decide) (by decide)) (by decide)
  · subst less
    exact reference "lt".toList (word _ (by decide) (by decide)) (by decide)
  · subst greater
    exact reference "gt".toList (word _ (by decide) (by decide)) (by decide)
  · subst quote
    exact reference "quot".toList (word _ (by decide) (by decide)) (by decide)
  · subst apostrophe
    exact reference "#39".toList
      ⟨"39".toList, Or.inr rfl, by decide, by decide⟩ (by decide)
  · exact decode_cons_of_ne ampersand rest

end CharRef

end BookMarkup
