/-
This file proves that no spelling of a script scheme passes the check of a target. Each
letter and the colon may be written in either case, as a percent-escape or as a numeric
reference, with other characters around them. Decoding goes through the target piece by
piece: a piece shows the same text in front of every rest, so whatever follows the
spelling, either the check finds the scheme at the front or the escapes of the rest cannot
be decoded, and then the target is rejected too.

A target is not rejected if it holds a decimal reference with too many digits. Then the
check does not come to an answer, and cleaning fails with it.
-/

import BookMarkup.Proofs.Html.Numeric
import BookMarkup.Proofs.Url.Cleaned

namespace BookMarkup

namespace Url

open Percent

/-! ### Spellings -/

/-- The ways to write a character of a scheme. -/
inductive IsSpelling (c : Char) : Text → Prop where
  /-- The character itself. -/
  | literal : IsSpelling c [c]
  /-- A percent-escape with digits of either case. -/
  | escape {first second : Char} (numeral : CharRef.IsNumeral 16 c.toNat [first, second]) :
    IsSpelling c ['%', first, second]
  /-- A decimal reference. -/
  | decimal {digits : Text} (numeral : CharRef.IsNumeral 10 c.toNat digits) :
    IsSpelling c ('&' :: '#' :: (digits ++ [';']))
  /-- A hexadecimal reference with a mark and digits of either case. -/
  | hexadecimal {mark : Char} (isMark : mark = 'x' ∨ mark = 'X') {digits : Text}
    (numeral : CharRef.IsNumeral 16 c.toNat digits) :
    IsSpelling c ('&' :: '#' :: mark :: (digits ++ [';']))

/-- A code point that may stand around the characters of a scheme: no word character and none
that has a meaning of its own in a target or its check. -/
def IsNoise : CodePoint → Prop
  | .scalar c => isWord c = false ∧ c ≠ ':' ∧ c ≠ '%' ∧ c ≠ '&'
  | .surrogate _ => True

instance : DecidablePred IsNoise
  | .scalar _ => inferInstanceAs (Decidable (_ ∧ _))
  | .surrogate _ => isTrue trivial

/-- Whether code points spell a scheme: its characters in order, in either case, each in one of
the ways to write it, with noise in front of, between and behind them. -/
inductive Obfuscates : Text → List CodePoint → Prop where
  /-- What may stand behind the last character. -/
  | behind {noise : List CodePoint} (noisy : ∀ point ∈ noise, IsNoise point) : Obfuscates [] noise
  /-- One more character in front, with what may stand before it. -/
  | spelled {noise : List CodePoint} (noisy : ∀ point ∈ noise, IsNoise point) {letter c : Char}
    (same : c.toLower = letter) {spelling : Text} (spells : IsSpelling c spelling)
    {scheme : Text} {front : List CodePoint} (others : Obfuscates scheme front) :
    Obfuscates (letter :: scheme) (noise ++ spelling.map .scalar ++ front)

/-- A scheme in small letters spells itself. -/
theorem obfuscates_self {scheme : Text} (small : ∀ c ∈ scheme, c.toLower = c) :
    Obfuscates scheme (scheme.map .scalar) := by
  have nothing : ∀ point ∈ ([] : List CodePoint), IsNoise point := fun _ member => by cases member
  induction scheme with
  | nil => exact .behind nothing
  | cons head rest inductionHypothesis =>
    exact .spelled nothing (small head List.mem_cons_self) .literal
      (inductionHypothesis fun c member => small c (List.mem_cons_of_mem _ member))

/-! ### What a piece of a target shows -/

/-- Whether the check reads a piece of a target as a text, whatever stands behind the piece. In
between there is what the references of the piece are decoded to. -/
def Shows (piece shown : Text) : Prop :=
  ∃ between, (∀ rest, CharRef.decode (piece ++ rest) = between ++ CharRef.decode rest) ∧
    ∀ rest, decode? (between ++ rest) = (decode? rest).map (shown ++ ·)

theorem Shows.append {first second firstShown secondShown : Text} (one : Shows first firstShown)
    (other : Shows second secondShown) : Shows (first ++ second) (firstShown ++ secondShown) := by
  obtain ⟨oneBetween, oneReferences, oneEscapes⟩ := one
  obtain ⟨otherBetween, otherReferences, otherEscapes⟩ := other
  refine ⟨oneBetween ++ otherBetween, fun rest => ?_, fun rest => ?_⟩
  · rw [List.append_assoc, oneReferences, otherReferences, List.append_assoc]
  · rw [List.append_assoc, oneEscapes, otherEscapes, Option.map_map]
    congr 1
    funext behind
    exact (List.append_assoc _ _ _).symm

/-- A piece without percent signs and ampersands shows itself. -/
theorem shows_plain {piece : Text} (noEscape : '%' ∉ piece) (noReference : '&' ∉ piece) :
    Shows piece piece :=
  ⟨piece, decode_append_of_plain noReference, decode?_append_of_plain noEscape⟩

section Letter

variable {c : Char} (inScheme : c.isAlpha = true ∨ c = ':')

include inScheme

theorem code_of_scheme : 0x3A ≤ c.toNat ∧ c.toNat ≤ 0x7A := by
  rcases inScheme with letter | rfl
  · have codes := (isAlpha_iff c).mp letter
    omega
  · decide

/-- Every spelling of a character of a scheme shows the character. -/
theorem shows_spelling {spelling : Text} (spells : IsSpelling c spelling) : Shows spelling [c] := by
  have code := code_of_scheme inScheme
  have printable : 0x20 ≤ c.toNat ∧ c.toNat < 0x7F := by omega
  have noPercent : c ≠ '%' := by
    rintro rfl
    exact absurd code (by decide)
  have noAmpersand : c ≠ '&' := by
    rintro rfl
    exact absurd code (by decide)
  have itself (rest : Text) : decode? ([c] ++ rest) = (decode? rest).map ([c] ++ ·) :=
    decode?_cons_of_ne noPercent rest
  cases spells with
  | literal => exact shows_plain (by simpa using noPercent.symm) (by simpa using noAmpersand.symm)
  | @escape first second numeral =>
    have digits := CharRef.isHexDigit_of_isNumeral numeral
    have number := CharRef.numberOf_of_isNumeral (by omega) (by omega) numeral
    obtain ⟨high, isHigh⟩ := Option.isSome_iff_exists.mp (digits first List.mem_cons_self)
    obtain ⟨low, isLow⟩ := Option.isSome_iff_exists.mp
      (digits second (List.mem_cons_of_mem _ List.mem_cons_self))
    have value : high * 16 + low = c.toNat := by
      rw [← number]
      show high * 16 + low =
        (0 * 16 + (hexValue? first).getD 0) * 16 + (hexValue? second).getD 0
      rw [isHigh, isLow, Nat.zero_mul, Nat.zero_add]
      rfl
    have noReference : '&' ∉ ['%', first, second] := by
      intro member
      rcases List.mem_cons.mp member with equal | member
      · cases equal
      · have digit := digits _ member
        cases digit
    exact ⟨['%', first, second], decode_append_of_plain noReference,
      decode?_escape isHigh isLow value (by omega)⟩
  | decimal numeral => exact ⟨[c], CharRef.decode_decimal printable numeral, itself⟩
  | hexadecimal isMark numeral =>
    exact ⟨[c], CharRef.decode_hexadecimal printable isMark numeral, itself⟩

theorem wordsAndColons_singleton : wordsAndColons [c] = [c] := by
  refine List.filter_eq_self.mpr fun other member => ?_
  rw [List.mem_singleton.mp member]
  rcases inScheme with letter | rfl
  · rw [isWord_of_isAlphanum c (by rw [Char.isAlphanum, letter, Bool.true_or]), Bool.true_or]
  · decide

end Letter

/-! ### What a spelled scheme shows -/

/-- Noise shows itself, and the check drops all of it. -/
theorem shows_noise {noise : Text} (noisy : ∀ point ∈ noise.map CodePoint.scalar, IsNoise point) :
    Shows noise noise ∧ wordsAndColons noise = [] := by
  have dark {c : Char} (member : c ∈ noise) : IsNoise (.scalar c) :=
    noisy _ (List.mem_map_of_mem member)
  refine ⟨shows_plain (fun member => (dark member).2.2.1 rfl)
    (fun member => (dark member).2.2.2 rfl), List.filter_eq_nil_iff.mpr fun c member word => ?_⟩
  obtain ⟨noWord, noColon, -⟩ := dark member
  rw [noWord, Bool.false_or, beq_iff_eq] at word
  exact noColon word

/-- A spelled scheme shows a text in which the check finds the scheme. The induction is on the
spelling, one character of the scheme at a time. -/
theorem shows_scheme {scheme : Text} {front : List CodePoint} (obfuscates : Obfuscates scheme front)
    (letters : ∀ c ∈ scheme, c.isAlpha = true ∨ c = ':') {text : Text}
    (spelled : front = text.map .scalar) :
    ∃ shown, Shows text shown ∧ Text.lower (wordsAndColons shown) = scheme := by
  induction obfuscates generalizing text with
  | behind noisy =>
    subst spelled
    obtain ⟨itself, dropped⟩ := shows_noise noisy
    exact ⟨text, itself, by rw [dropped]; rfl⟩
  | @spelled noise noisy letter c same spelling spells scheme front others inductionHypothesis =>
    obtain ⟨before, behind, rfl, inFront, rfl⟩ := List.map_eq_append_iff.mp spelled.symm
    obtain ⟨around, written, rfl, rfl, isSpelling⟩ := List.map_eq_append_iff.mp inFront
    have scalar : Function.Injective CodePoint.scalar := fun _ _ equal => CodePoint.scalar.inj equal
    obtain rfl := (List.map_injective_iff.mpr scalar) isSpelling
    have inScheme : c.isAlpha = true ∨ c = ':' := by
      refine isAlpha_or_colon_of_toLower ?_
      rw [same]
      exact letters letter List.mem_cons_self
    obtain ⟨itself, dropped⟩ := shows_noise noisy
    obtain ⟨shown, shows', finds⟩ :=
      inductionHypothesis (fun c member => letters c (List.mem_cons_of_mem _ member)) rfl
    refine ⟨around ++ [c] ++ shown, (itself.append (shows_spelling inScheme spells)).append shows',
      ?_⟩
    rw [wordsAndColons_append, wordsAndColons_append, dropped, wordsAndColons_singleton inScheme]
    show c.toLower :: Text.lower (wordsAndColons shown) = letter :: scheme
    rw [same, finds]

/-- A target that starts with a spelling of a script scheme is suspect, whatever follows. -/
theorem isSuspect_of_shows {front shown : Text} (shows' : Shows front shown)
    (finds : Text.lower (wordsAndColons shown) ∈ scriptSchemes) (rest : Text) :
    isSuspect (CharRef.decode (front ++ rest)) = true := by
  obtain ⟨between, references, escapes⟩ := shows'
  unfold isSuspect
  rw [references, escapes]
  cases decode? (CharRef.decode rest) with
  | none => rfl
  | some decoded =>
    exact startsWithScriptScheme_of_starts (List.prefix_append shown decoded) finds

/-! ### Long numbers among code points -/

/-- Whether code points hold a decimal reference of more than 4300 digits. -/
def HoldLongNumber (points : List CodePoint) : Prop :=
  ∃ (front : List CodePoint) (digits : Text) (behind : List CodePoint),
    points = front ++ ('&' :: '#' :: digits).map .scalar ++ behind ∧
      (∀ c ∈ digits, c.isDigit = true) ∧ 4300 < digits.length

theorem HoldLongNumber.length_lt {points : List CodePoint} (long : HoldLongNumber points) :
    4300 < points.length := by
  obtain ⟨front, digits, behind, rfl, -, many⟩ := long
  simp only [List.length_append, List.length_map, List.length_cons]
  omega

/-- What stands for a surrogate is no character of a reference. -/
theorem eq_map_scalar_of_standIn {points : List CodePoint} {text : Text}
    (spells : points.map CodePoint.standIn = text) (free : '\uFFFD' ∉ text) :
    points = text.map .scalar := by
  subst spells
  rw [List.map_map]
  refine (List.map_id points).symm.trans (List.map_congr_left fun point member => ?_)
  cases point with
  | scalar c => rfl
  | surrogate value => exact absurd (List.mem_map_of_mem member) free

theorem map_standIn_scalar (text : Text) :
    (text.map CodePoint.scalar).map CodePoint.standIn = text := by
  rw [List.map_map]
  exact List.map_id text

theorem holdLongNumber_iff (points : List CodePoint) :
    HoldLongNumber points ↔ CharRef.HoldsLongNumber (points.map CodePoint.standIn) := by
  constructor
  · rintro ⟨front, digits, behind, rfl, all, many⟩
    refine ⟨front.map CodePoint.standIn, digits, behind.map CodePoint.standIn, ?_, all, many⟩
    rw [List.map_append, List.map_append, map_standIn_scalar, List.append_assoc]
    rfl
  · rintro ⟨front, digits, behind, spelled, all, many⟩
    have whole : points.map CodePoint.standIn = (front ++ '&' :: '#' :: digits) ++ behind := by
      rw [spelled, List.append_assoc]
      rfl
    obtain ⟨most, last, rfl, isMost, -⟩ := List.map_eq_append_iff.mp whole
    obtain ⟨first, reference, rfl, -, isReference⟩ := List.map_eq_append_iff.mp isMost
    have free : '\uFFFD' ∉ '&' :: '#' :: digits := by
      intro member
      rcases List.mem_cons.mp member with equal | member
      · cases equal
      rcases List.mem_cons.mp member with equal | member
      · cases equal
      · exact absurd (all _ member) (by decide)
    exact ⟨first, digits, last, by rw [eq_map_scalar_of_standIn isReference free], all, many⟩

/-! ### Rejection -/

/-- A spelled scheme with whatever behind it is rejected if none of its numbers is too long, and
never cleaned. -/
theorem cleanCodePoints_spelled {scheme : Text} (known : scheme ∈ scriptSchemes)
    {front : List CodePoint} (obfuscates : Obfuscates scheme front) (base : Option Text)
    (rest : List CodePoint) :
    cleanCodePoints true base (front ++ rest) =
      match CharRef.longNumber? ((front ++ rest).map CodePoint.standIn) with
      | some number => .error number
      | none => .ok none := by
  rcases spells_or_surrogate (front ++ rest) with ⟨target, spelled⟩ | ⟨-, nothing⟩
  · obtain ⟨text, behind, rfl, isFront, rfl⟩ := List.map_eq_append_iff.mp spelled.symm
    obtain ⟨shown, shows', finds⟩ := shows_scheme obfuscates
      (isAlpha_or_colon_of_mem_scriptSchemes known) isFront.symm
    rw [← finds] at known
    unfold cleanCodePoints
    rw [← isFront, ← List.map_append, text?_map_scalar, map_standIn_scalar]
    show clean true base (text ++ behind) = _
    unfold clean rejects check CharRef.unescape
    cases CharRef.longNumber? (text ++ behind) with
    | none =>
      show Except.ok (if isSuspect (CharRef.decode (text ++ behind)) then none else _) = _
      rw [if_pos (isSuspect_of_shows shows' known behind)]
    | some number => rfl
  · unfold cleanCodePoints
    rw [nothing]
    show Except.map _ (check _) = _
    unfold check CharRef.unescape
    cases CharRef.longNumber? ((front ++ rest).map CodePoint.standIn) <;> rfl

/-- No spelling of a script scheme is cleaned, whatever follows and whatever the base. It is
rejected unless it holds a decimal reference with too many digits, and then cleaning fails. -/
theorem spelled_scheme_is_rejected {scheme : Text} (known : scheme ∈ scriptSchemes)
    {front : List CodePoint} (obfuscates : Obfuscates scheme front) (base : Option Text)
    (rest : List CodePoint) :
    (cleanCodePoints true base (front ++ rest) = .ok none ↔ ¬ HoldLongNumber (front ++ rest)) ∧
      ((∃ number, cleanCodePoints true base (front ++ rest) = .error number) ↔
        HoldLongNumber (front ++ rest)) := by
  rw [cleanCodePoints_spelled known obfuscates, holdLongNumber_iff,
    ← CharRef.longNumber?_isSome_iff]
  cases CharRef.longNumber? ((front ++ rest).map CodePoint.standIn) <;> simp

/-- A scheme in all four kinds of spelling, with a space in front, an asterisk inside and a question
mark behind. -/
theorem data_scheme_is_rejected_in_all_spellings :
    cleanCodePoints true none (" &#68;%61*T&#x0041;%3a?text".toList.map .scalar) = .ok none := by
  have first : IsSpelling 'D' ('&' :: '#' :: ("68".toList ++ [';'])) := .decimal ⟨0, rfl⟩
  have second : IsSpelling 'a' ['%', '6', '1'] := .escape ⟨0, rfl⟩
  have third : IsSpelling 'T' ['T'] := .literal
  have fourth : IsSpelling 'A' ('&' :: '#' :: 'x' :: ("0041".toList ++ [';'])) :=
    .hexadecimal (Or.inl rfl) ⟨2, rfl⟩
  have colon : IsSpelling ':' ['%', '3', 'a'] := .escape ⟨0, rfl⟩
  have space : ∀ point ∈ [CodePoint.scalar ' '], IsNoise point := by decide
  have asterisk : ∀ point ∈ [CodePoint.scalar '*'], IsNoise point := by decide
  have questionMark : ∀ point ∈ [CodePoint.scalar '?'], IsNoise point := by decide
  have nothing : ∀ point ∈ ([] : List CodePoint), IsNoise point := fun _ member => by cases member
  have front : Obfuscates ['d', 'a', 't', 'a', ':'] _ :=
    .spelled space rfl first (.spelled nothing rfl second (.spelled asterisk rfl third
      (.spelled nothing rfl fourth (.spelled nothing rfl colon (.behind questionMark)))))
  have short : ¬ HoldLongNumber (" &#68;%61*T&#x0041;%3a?text".toList.map .scalar) :=
    fun long => absurd long.length_lt (by decide)
  exact (spelled_scheme_is_rejected (by decide) front none ("text".toList.map .scalar)).1.mpr short

/-- A script scheme that is spelled as it is, with a number of 4301 digits behind it, is not
rejected. -/
theorem long_number_behind_scheme_is_not_rejected :
    Obfuscates "javascript:".toList ("javascript:".toList.map .scalar) ∧
      cleanCodePoints true none (("javascript:".toList ++
        '&' :: '#' :: (List.replicate 4301 '1' ++ [';'])).map .scalar) = .error ⟨4301⟩ := by
  have ones : ∀ c ∈ List.replicate 4301 '1', c.isDigit = true := by
    intro c member
    rw [List.eq_of_mem_replicate member]
    rfl
  have count := CharRef.decimalDigits_append ones [';']
  rw [List.length_replicate] at count
  have number : CharRef.longNumber? ("javascript:".toList ++
      '&' :: '#' :: (List.replicate 4301 '1' ++ [';'])) = some ⟨4301⟩ := by
    rw [CharRef.longNumber?_append_of_plain (by decide), CharRef.longNumber?, count]
    rfl
  refine ⟨obfuscates_self (by decide), ?_⟩
  rw [cleanCodePoints, text?_map_scalar]
  exact congrArg (Except.map _) (check_eq_error_iff.mpr number)

end Url

end BookMarkup
