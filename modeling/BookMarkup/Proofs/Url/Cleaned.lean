/-
This file proves that cleaning a target is done once. What a cleaned target is written
with is kept when it is cleaned again, so encoding changes nothing the second time. Nor
does a cleaned target become dangerous: character references are read from characters
that are all kept, so the check decodes the same references behind encoding, and what
encoding escapes is decoded to what it was before.
-/

import BookMarkup.Proofs.Html.Reference
import BookMarkup.Proofs.Url.Encoding
import BookMarkup.Proofs.Url.Script

namespace BookMarkup

namespace Url

open Percent

/-! ### Characters -/

/-- Whether a cleaned target keeps a character. -/
def isKept (c : Char) : Bool :=
  c.isAlphanum || "%-_.~;,/?:@&=+$!*'()#".toList.contains c

theorem encodeTargetChar_eq (c : Char) :
    encodeTargetChar c = if isKept c then [c] else encodeChar c := by
  have spelled : "%-_.~;,/?:@&=+$!*'()#".toList = '%' :: '-' :: '_' :: '.' :: '~' :: targetChars :=
    rfl
  have same : (c = '%' || isUnreserved c || targetChars.contains c) = isKept c := by
    rw [isKept, spelled, isUnreserved]
    simp only [List.contains_cons, ← Bool.beq_eq_decide_eq]
    ac_rfl
  rw [encodeTargetChar, same]

theorem encodeTargetChar_of_kept {c : Char} (kept : isKept c = true) :
    encodeTargetChar c = [c] := by
  rw [encodeTargetChar_eq, if_pos kept]

theorem encodeTargetChar_of_not_kept {c : Char} (escaped : isKept c = false) :
    encodeTargetChar c = encodeChar c := by
  rw [encodeTargetChar_eq, escaped]
  rfl

theorem isKept_of_isAlphanum {c : Char} (alphanumeric : c.isAlphanum = true) :
    isKept c = true := by
  rw [isKept, alphanumeric, Bool.true_or]

theorem isKept_of_isReferenceChar {c : Char} (part : CharRef.isReferenceChar c = true) :
    isKept c = true := by
  simp only [CharRef.isReferenceChar, Bool.or_eq_true, beq_iff_eq] at part
  rcases part with (alphanumeric | rfl) | rfl
  · exact isKept_of_isAlphanum alphanumeric
  · decide
  · decide

/-- An escape is written with percent signs and hexadecimal digits. -/
theorem percent_or_digit_of_mem_encodeChar {c part : Char} (member : part ∈ encodeChar c) :
    part = '%' ∨ ∃ value, hexValue? part = some value := by
  obtain ⟨byte, -, member⟩ := List.mem_flatMap.mp member
  have bound : byte.toNat < 256 := byte.toNat_lt
  simp only [encodeByte, List.mem_cons, List.not_mem_nil, or_false] at member
  rcases member with rfl | rfl | rfl
  · exact Or.inl rfl
  · exact Or.inr ⟨_, hexValue?_hexDigit (by omega)⟩
  · exact Or.inr ⟨_, hexValue?_hexDigit (by omega)⟩

theorem isKept_of_mem_encodeChar {c part : Char} (member : part ∈ encodeChar c) :
    isKept part = true := by
  rcases percent_or_digit_of_mem_encodeChar member with rfl | ⟨value, digit⟩
  · decide
  · exact isKept_of_isAlphanum (isAlphanum_of_hexValue? digit)

theorem ampersand_not_mem_encodeChar (c : Char) : '&' ∉ encodeChar c := by
  intro member
  rcases percent_or_digit_of_mem_encodeChar member with equal | ⟨value, digit⟩
  · exact absurd equal (by decide)
  · cases digit

/-! ### Encoding again -/

theorem isKept_of_mem_encodeTarget {target : Text} {c : Char} (member : c ∈ encodeTarget target) :
    isKept c = true := by
  rw [encodeTarget_eq_flatMap] at member
  obtain ⟨source, -, member⟩ := List.mem_flatMap.mp member
  cases kept : isKept source with
  | true =>
    rw [encodeTargetChar_of_kept kept, List.mem_singleton] at member
    rwa [member]
  | false =>
    rw [encodeTargetChar_of_not_kept kept] at member
    exact isKept_of_mem_encodeChar member

theorem encodeTarget_append_of_kept {front : Text} (kept : ∀ c ∈ front, isKept c = true)
    (rest : Text) : encodeTarget (front ++ rest) = front ++ encodeTarget rest := by
  rw [encodeTarget_eq_flatMap, encodeTarget_eq_flatMap, List.flatMap_append]
  congr 1
  induction front with
  | nil => rfl
  | cons head front inductionHypothesis =>
    rw [List.flatMap_cons, encodeTargetChar_of_kept (kept head List.mem_cons_self),
      inductionHypothesis fun c member => kept c (List.mem_cons_of_mem _ member)]
    rfl

/-- Encoding an encoded target changes nothing. -/
theorem encodeTarget_encodeTarget (target : Text) :
    encodeTarget (encodeTarget target) = encodeTarget target := by
  have kept : ∀ c ∈ encodeTarget target, isKept c = true := fun _ => isKept_of_mem_encodeTarget
  have again := encodeTarget_append_of_kept kept []
  rw [List.append_nil] at again
  rw [again]
  exact List.append_nil _

/-! ### Checking again -/

theorem encodeTarget_cons (head : Char) (rest : Text) :
    encodeTarget (head :: rest) = encodeTargetChar head ++ encodeTarget rest := by
  rw [encodeTarget_eq_flatMap, encodeTarget_eq_flatMap, List.flatMap_cons]

/-- The characters behind an ampersand that its reference may hold are kept, and no others come
to stand behind them. -/
theorem takeWhile_isReferenceChar_encodeTarget (target : Text) :
    (encodeTarget target).takeWhile CharRef.isReferenceChar =
      target.takeWhile CharRef.isReferenceChar := by
  induction target with
  | nil => rfl
  | cons head rest inductionHypothesis =>
    rw [encodeTarget_cons]
    cases kept : isKept head with
    | true =>
      rw [encodeTargetChar_of_kept kept, List.singleton_append, List.takeWhile_cons,
        List.takeWhile_cons, inductionHypothesis]
    | false =>
      have out : CharRef.isReferenceChar head = false := by
        refine Bool.eq_false_iff.mpr fun part => ?_
        rw [isKept_of_isReferenceChar part] at kept
        cases kept
      obtain ⟨tail, starts⟩ := List.head?_eq_some_iff.mp (head?_encodeChar head)
      rw [encodeTargetChar_of_not_kept kept, starts, List.takeWhile_cons, out]
      rfl

theorem read?_encodeTarget (target : Text) :
    CharRef.read? false (encodeTarget target) = CharRef.read? false target := by
  rw [← CharRef.read?_takeWhile, takeWhile_isReferenceChar_encodeTarget, CharRef.read?_takeWhile]

/-- What stands behind a reference is encoded as it is without the reference. -/
theorem drop_encodeTarget {target value : Text} {taken : Nat}
    (reading : CharRef.read? false target = some (value, taken)) :
    (encodeTarget target).drop taken = encodeTarget (target.drop taken) := by
  obtain ⟨front, isFront⟩ : ∃ front, front = target.takeWhile CharRef.isReferenceChar := ⟨_, rfl⟩
  obtain ⟨behind, isBehind⟩ : ∃ behind, behind = target.dropWhile CharRef.isReferenceChar :=
    ⟨_, rfl⟩
  have whole : target = front ++ behind := by
    rw [isFront, isBehind, List.takeWhile_append_dropWhile]
  have kept : ∀ c ∈ front, isKept c = true := by
    intro c member
    rw [isFront] at member
    exact isKept_of_isReferenceChar (List.all_eq_true.mp List.all_takeWhile c member)
  have within : taken ≤ front.length := by
    rw [← CharRef.read?_takeWhile, ← isFront] at reading
    exact CharRef.read?_taken_le reading
  rw [whole, encodeTarget_append_of_kept kept, List.drop_append_of_le_length within,
    List.drop_append_of_le_length within,
    encodeTarget_append_of_kept fun c member => kept c (List.mem_of_mem_drop member)]

/-- Encoding a target percent-encodes characters of what its references are decoded to. The
induction is on the length of the target, because a reference is passed in one step. -/
theorem isEncoding_decode_encodeTarget (target : Text) :
    IsEncoding (CharRef.decode target) (CharRef.decode (encodeTarget target)) := by
  induction size : target.length using Nat.strongRecOn generalizing target with
  | ind count inductionHypothesis =>
    cases target with
    | nil => exact IsEncoding.nil
    | cons head rest =>
      rw [List.length_cons] at size
      have behind := inductionHypothesis rest.length (by omega) rest rfl
      rw [encodeTarget_cons]
      by_cases ampersand : head = '&'
      · subst ampersand
        rw [encodeTargetChar_of_kept (by decide), List.singleton_append, CharRef.decode_ampersand,
          CharRef.decode_ampersand, read?_encodeTarget]
        cases reading : CharRef.read? false rest with
        | none => exact behind.kept '&'
        | some result =>
          obtain ⟨value, taken⟩ := result
          show IsEncoding (value ++ CharRef.decode (rest.drop taken))
            (value ++ CharRef.decode ((encodeTarget rest).drop taken))
          rw [drop_encodeTarget reading]
          refine (inductionHypothesis _ ?_ (rest.drop taken) rfl).append value
          rw [List.length_drop]
          omega
      · rw [CharRef.decode_cons_of_ne ampersand]
        cases kept : isKept head with
        | true =>
          rw [encodeTargetChar_of_kept kept, List.singleton_append,
            CharRef.decode_cons_of_ne ampersand]
          exact behind.kept head
        | false =>
          have noPercent : head ≠ '%' := by
            rintro rfl
            cases kept
          have noDigit : hexValue? head = none := by
            cases digit : hexValue? head with
            | none => rfl
            | some value =>
              rw [isKept_of_isAlphanum (isAlphanum_of_hexValue? digit)] at kept
              cases kept
          rw [encodeTargetChar_of_not_kept kept,
            decode_append_of_plain (ampersand_not_mem_encodeChar head)]
          exact behind.encoded noPercent noDigit

/-- Encoding makes no target suspect and no suspect one harmless. -/
theorem isSuspect_decode_encodeTarget (target : Text) :
    isSuspect (CharRef.decode (encodeTarget target)) = isSuspect (CharRef.decode target) := by
  unfold isSuspect
  rw [(isEncoding_decode_encodeTarget target).decode?_eq]

/-- A number is as long in front of what encoding writes as it is in the target. -/
theorem decimalDigits_encodeTarget (target : Text) :
    CharRef.decimalDigits (encodeTarget target) = CharRef.decimalDigits target := by
  rw [← CharRef.decimalDigits_takeWhile, takeWhile_isReferenceChar_encodeTarget,
    CharRef.decimalDigits_takeWhile]

theorem longNumber?_encodeTarget (target : Text) :
    CharRef.longNumber? (encodeTarget target) = CharRef.longNumber? target := by
  induction target with
  | nil => rfl
  | cons head rest inductionHypothesis =>
    rw [encodeTarget_cons]
    by_cases ampersand : head = '&'
    · subst ampersand
      rw [encodeTargetChar_of_kept (by decide), List.singleton_append, CharRef.longNumber?,
        CharRef.longNumber?, decimalDigits_encodeTarget, inductionHypothesis]
    · have plain : '&' ∉ encodeTargetChar head := by
        cases kept : isKept head with
        | true =>
          rw [encodeTargetChar_of_kept kept, List.mem_singleton]
          exact Ne.symm ampersand
        | false =>
          rw [encodeTargetChar_of_not_kept kept]
          exact ampersand_not_mem_encodeChar head
      rw [CharRef.longNumber?_append_of_plain plain, inductionHypothesis,
        CharRef.longNumber?_cons_of_ne ampersand]

/-- The check gives the same answer for a target and what it is encoded to. -/
theorem check_encodeTarget (target : Text) : check (encodeTarget target) = check target := by
  unfold check CharRef.unescape
  rw [longNumber?_encodeTarget]
  cases CharRef.longNumber? target with
  | none => exact congrArg Except.ok (isSuspect_decode_encodeTarget target)
  | some number => rfl

/-! ### Cleaning again -/

theorem text?_cons_scalar (head : Char) (points : List CodePoint) :
    CodePoint.text? (.scalar head :: points) = (CodePoint.text? points).map (head :: ·) := by
  unfold CodePoint.text?
  rw [List.mapM_cons]
  cases points.mapM CodePoint.char? <;> rfl

theorem text?_map_scalar (text : Text) : CodePoint.text? (text.map .scalar) = some text := by
  induction text with
  | nil => rfl
  | cons head rest inductionHypothesis =>
    rw [List.map_cons, text?_cons_scalar, inductionHypothesis]
    rfl

/-- Code points spell a text if none of them is a surrogate. -/
theorem spells_or_surrogate (points : List CodePoint) :
    (∃ text : Text, points = text.map .scalar) ∨
      (∃ value, CodePoint.surrogate value ∈ points) ∧ CodePoint.text? points = none := by
  induction points with
  | nil => exact Or.inl ⟨[], rfl⟩
  | cons point points inductionHypothesis =>
    cases point with
    | surrogate value =>
      refine Or.inr ⟨⟨value, List.mem_cons_self⟩, ?_⟩
      unfold CodePoint.text?
      rw [List.mapM_cons]
      rfl
    | scalar head =>
      rcases inductionHypothesis with ⟨rest, rfl⟩ | ⟨⟨value, member⟩, nothing⟩
      · exact Or.inl ⟨head :: rest, rfl⟩
      · refine Or.inr ⟨⟨value, List.mem_cons_of_mem _ member⟩, ?_⟩
        rw [text?_cons_scalar, nothing]
        rfl

theorem rejects_encodeTarget (sanitize : Bool) (target : Text) :
    rejects sanitize (encodeTarget target) = rejects sanitize target := by
  unfold rejects
  rw [check_encodeTarget]

/-- A target is cleaned if it is not rejected. -/
theorem clean_eq_some_iff {sanitize : Bool} {base : Option Text} {target cleaned : Text} :
    clean sanitize base target = .ok (some cleaned) ↔
      rejects sanitize target = .ok false ∧
        encodeTarget (resolveAgainst base target) = cleaned := by
  unfold clean
  rcases rejects sanitize target with number | (_ | _) <;> simp [Except.map]

theorem clean_of_clean {sanitize : Bool} {target cleaned : Text}
    (cleans : clean sanitize none target = .ok (some cleaned)) :
    clean sanitize none cleaned = .ok (some cleaned) ∧ cleaned = encodeTarget target := by
  obtain ⟨accepted, rfl⟩ := clean_eq_some_iff.mp cleans
  refine ⟨clean_eq_some_iff.mpr ⟨?_, encodeTarget_encodeTarget target⟩, rfl⟩
  exact (rejects_encodeTarget sanitize target).trans accepted

/-- Cleaning without a base keeps the characters of a URL, percent-encodes all others, and does
nothing to what it gave; without the check, it gives nothing for surrogates only. -/
theorem cleaning_is_fixpoint (sanitize : Bool) (points : List CodePoint) :
    (∀ cleaned, cleanCodePoints sanitize none points = .ok (some cleaned) →
      cleanCodePoints sanitize none (cleaned.map .scalar) = .ok (some cleaned) ∧
        ∃ target : Text, points = target.map .scalar ∧
          cleaned = target.flatMap fun c =>
            if isKept c then [c] else (String.utf8EncodeChar c).flatMap encodeByte) ∧
      (cleanCodePoints false none points = .ok none ↔
        ∃ value, CodePoint.surrogate value ∈ points) := by
  rcases spells_or_surrogate points with ⟨target, rfl⟩ | ⟨surrogate, nothing⟩
  · unfold cleanCodePoints
    rw [text?_map_scalar]
    constructor
    · intro cleaned cleans
      obtain ⟨again, rfl⟩ := clean_of_clean cleans
      rw [text?_map_scalar]
      refine ⟨again, target, rfl, ?_⟩
      rw [encodeTarget_eq_flatMap]
      congr 1
      funext c
      exact encodeTargetChar_eq c
    · constructor
      · intro fails
        cases fails
      · rintro ⟨value, member⟩
        obtain ⟨c, -, equal⟩ := List.mem_map.mp member
        cases equal
  · unfold cleanCodePoints
    rw [nothing]
    refine ⟨fun cleaned cleans => ?_, fun _ => surrogate, fun _ => rfl⟩
    cases answer : rejects sanitize (points.map CodePoint.standIn) with
    | error number =>
      rw [answer] at cleans
      cases cleans
    | ok rejected =>
      rw [answer] at cleans
      cases cleans

/-- A space and two characters of longer forms are escaped once, next to an escape and a reference
that are there already. -/
theorem cleaned_beside_escape_and_reference :
    cleanCodePoints true none ("/a b%2F&#38;é😀".toList.map .scalar) =
        .ok (some "/a%20b%2F&#38;%C3%A9%F0%9F%98%80".toList) ∧
      cleanCodePoints true none ("/a%20b%2F&#38;%C3%A9%F0%9F%98%80".toList.map .scalar) =
        .ok (some "/a%20b%2F&#38;%C3%A9%F0%9F%98%80".toList) := by
  have cleans : cleanCodePoints true none ("/a b%2F&#38;é😀".toList.map .scalar) =
      .ok (some "/a%20b%2F&#38;%C3%A9%F0%9F%98%80".toList) := by decide +kernel
  exact ⟨cleans, ((cleaning_is_fixpoint true _).1 _ cleans).1⟩

end Url

end BookMarkup
