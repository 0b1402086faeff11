/-
This file proves that escaping once more does no harm. Every ampersand of escaped text
starts a reference that ends in the same text, whatever stands behind it. So escaping it
again, where as much or more is reserved, comes to escaping the source once, part by part;
and a no-break space that joins two words of it can be told from everything else and taken
out again.
-/

import BookMarkup.Proofs.Html.Content
import BookMarkup.Proofs.Text.Widow

namespace BookMarkup

namespace Html

/-! ### Whole references -/

/-- Whether every ampersand of a text starts a reference that ends in the text. -/
def IsWhole (text : Text) : Prop :=
  ∀ tail, '&' :: tail <:+ text → completesReference tail = true

theorem IsWhole.of_suffix {text part : Text} (whole : IsWhole text) (inside : part <:+ text) :
    IsWhole part := fun tail ends => whole tail (ends.trans inside)

/-- A character that no reference holds ends a part with whole references. -/
theorem IsWhole.of_append {stop : Char} (ends : EndsReference stop) {front rest : Text}
    (whole : IsWhole (front ++ stop :: rest)) : IsWhole front := by
  intro tail inside
  obtain ⟨before, spelled⟩ := inside
  rw [← completesReference_append ends tail rest]
  refine whole _ ⟨before, ?_⟩
  rw [← spelled, List.append_assoc, List.cons_append]

theorem ampersand_not_mem_name {name : Text} (body : CharRef.IsBody name) :
    '&' ∉ name ++ [';'] :=
  List.not_mem_append (fun member => (plain_of_mem_body body member).1 rfl) (by decide)

/-- A character is written as itself or as a reference. -/
theorem escapeChar_cases (c : Char) :
    escapeChar c = [c] ∨ ∃ name, CharRef.IsBody name ∧ escapeChar c = '&' :: (name ++ [';']) := by
  have word (name : Text) (nonempty : name ≠ []) (words : ∀ c ∈ name, isWord c = true) :
      CharRef.IsBody name := ⟨name, Or.inl rfl, nonempty, words⟩
  unfold escapeChar
  split_ifs
  · exact Or.inr ⟨"amp".toList, word _ (by decide) (by decide), rfl⟩
  · exact Or.inr ⟨"lt".toList, word _ (by decide) (by decide), rfl⟩
  · exact Or.inr ⟨"gt".toList, word _ (by decide) (by decide), rfl⟩
  · exact Or.inr ⟨"quot".toList, word _ (by decide) (by decide), rfl⟩
  · exact Or.inr ⟨"#39".toList, ⟨"39".toList, Or.inr rfl, by decide, by decide⟩, rfl⟩
  · exact Or.inl rfl

/-- What is written for a character: an ampersand in front of a reference that is kept, another
character as it is, or a reference for the character. -/
theorem escapeKeeping_cons (reserved : Char → Bool) (head : Char) (rest : Text) :
    (head = '&' ∧ completesReference rest = true ∧
      escapeKeeping reserved (head :: rest) = '&' :: escapeKeeping reserved rest) ∨
    (head ≠ '&' ∧ escapeKeeping reserved (head :: rest) = head :: escapeKeeping reserved rest) ∨
    ∃ name, CharRef.IsBody name ∧ escapeChar head = '&' :: (name ++ [';']) ∧
      (head = '&' → completesReference rest = false) ∧ (head ≠ '&' → reserved head = true) ∧
      escapeKeeping reserved (head :: rest) =
        '&' :: (name ++ ';' :: escapeKeeping reserved rest) := by
  have reference {name : Text} (written : escapeChar head = '&' :: (name ++ [';'])) (more : Text) :
      escapeChar head ++ more = '&' :: (name ++ ';' :: more) := by
    rw [written, List.cons_append, List.append_assoc]
    rfl
  by_cases ampersand : head = '&'
  · subst ampersand
    rw [escapeKeeping, if_pos rfl]
    cases completes : completesReference rest with
    | true => exact Or.inl ⟨rfl, rfl, rfl⟩
    | false =>
      have body : CharRef.IsBody "amp".toList := ⟨_, Or.inl rfl, by decide, by decide⟩
      exact Or.inr (Or.inr ⟨"amp".toList, body, rfl, fun _ => rfl, absurd rfl, rfl⟩)
  rw [escapeKeeping, if_neg ampersand]
  cases isReserved : reserved head with
  | false => exact Or.inr (Or.inl ⟨ampersand, rfl⟩)
  | true =>
    rw [if_pos rfl]
    rcases escapeChar_cases head with same | ⟨name, body, written⟩
    · exact Or.inr (Or.inl ⟨ampersand, by rw [same]; rfl⟩)
    · exact Or.inr (Or.inr ⟨name, body, written, fun equal => absurd equal ampersand,
        fun _ => rfl, reference written _⟩)

/-- A reference that is kept is complete in what is written, whatever stands behind that. -/
theorem completesReference_escapeKeeping {text : Text} (completes : completesReference text = true)
    (reserved : Char → Bool) (rest : Text) :
    completesReference (escapeKeeping reserved text ++ rest) = true := by
  obtain ⟨front, behind, body, rfl⟩ := (completesReference_iff text).mp completes
  have kept := escapeKeeping_reference reserved body behind
  rw [escapeKeeping, if_pos rfl, if_pos completes] at kept
  have inside : escapeKeeping reserved (front ++ ';' :: behind) =
      front ++ ';' :: escapeKeeping reserved behind := (List.cons.inj kept).2
  rw [inside, List.append_assoc, List.cons_append]
  exact (completesReference_iff _).mpr ⟨front, _, body, rfl⟩

theorem isWhole_escapeKeeping (reserved : Char → Bool) (text : Text) :
    IsWhole (escapeKeeping reserved text) := by
  induction text with
  | nil => exact fun tail ends => absurd (List.suffix_nil.mp ends) (by simp)
  | cons head rest inductionHypothesis =>
    intro tail ends
    rcases escapeKeeping_cons reserved head rest with
      ⟨-, completes, written⟩ | ⟨other, written⟩ | ⟨name, body, -, -, -, written⟩
    · rw [written] at ends
      rcases List.suffix_cons_iff.mp ends with equal | later
      · rw [(List.cons.inj equal).2, ← List.append_nil (escapeKeeping reserved rest)]
        exact completesReference_escapeKeeping completes reserved []
      · exact inductionHypothesis tail later
    · rw [written] at ends
      rcases List.suffix_cons_iff.mp ends with equal | later
      · exact absurd (List.cons.inj equal).1.symm other
      · exact inductionHypothesis tail later
    · rw [written] at ends
      rcases List.suffix_cons_iff.mp ends with equal | later
      · rw [(List.cons.inj equal).2]
        exact (completesReference_iff _).mpr ⟨name, _, body, rfl⟩
      · rw [List.append_cons] at later
        exact inductionHypothesis tail
          (Text.suffix_of_not_mem (ampersand_not_mem_name body) later)

/-! ### Escaping twice -/

/-- Escaping text that was escaped already, and what stands behind it, comes to escaping each of
the two once, if all that was reserved the first time is reserved the second time. -/
theorem escapeKeeping_escapeKeeping {inner outer : Char → Bool}
    (wider : ∀ c, inner c = true → outer c = true) (text rest : Text) :
    escapeKeeping outer (escapeKeeping inner text ++ rest) =
      escapeKeeping outer text ++ escapeKeeping outer rest := by
  induction text with
  | nil => rfl
  | cons head text inductionHypothesis =>
    rcases escapeKeeping_cons inner head text with
      ⟨rfl, completes, written⟩ | ⟨other, written⟩ | ⟨name, body, special, bare, reserved, written⟩
    · have again := completesReference_escapeKeeping completes inner rest
      rw [written, List.cons_append, escapeKeeping, escapeKeeping, if_pos rfl, if_pos rfl,
        if_pos again, if_pos completes, inductionHypothesis]
      rfl
    · rw [written, List.cons_append, escapeKeeping, escapeKeeping, if_neg other, if_neg other,
        inductionHypothesis, List.append_assoc]
    · have once : escapeKeeping outer (head :: text) =
          '&' :: (name ++ ';' :: escapeKeeping outer text) := by
        have shown : escapeKeeping outer (head :: text) =
            escapeChar head ++ escapeKeeping outer text := by
          rw [escapeKeeping]
          by_cases ampersand : head = '&'
          · rw [if_pos ampersand, if_neg (Bool.eq_false_iff.mp (bare ampersand)), ampersand]
          · rw [if_neg ampersand, if_pos (wider head (reserved ampersand))]
        rw [shown, special, List.cons_append, List.append_assoc]
        rfl
      rw [written, once, List.cons_append, List.append_assoc, List.cons_append,
        escapeKeeping_reference outer body, inductionHypothesis]
      simp only [List.cons_append, List.append_assoc]

theorem escapeAttribute_escapeContent (text rest : Text) :
    escapeAttribute (escapeContent text ++ rest) =
      escapeAttribute text ++ escapeAttribute rest :=
  escapeKeeping_escapeKeeping (fun _ => isReservedInAttribute_of_isReservedInContent) text rest

/-- Escaped texts in a row are escaped again one by one. -/
theorem escapeAttribute_flatMap_escapeContent (texts : List Text) :
    escapeAttribute (texts.flatMap escapeContent) = texts.flatMap escapeAttribute := by
  induction texts with
  | nil => rfl
  | cons text others inductionHypothesis =>
    rw [List.flatMap_cons, escapeAttribute_escapeContent, inductionHypothesis, List.flatMap_cons]

/-! ### Joined words -/

/-- A no-break space at a reference does not reach behind its semicolon. -/
theorem noBreakSpace_prefix_reference {name rest : Text}
    (starts : noBreakSpace <+: '&' :: (name ++ ';' :: rest)) :
    noBreakSpace <+: '&' :: (name ++ [';']) := by
  have whole : '&' :: (name ++ [';']) <+: '&' :: (name ++ ';' :: rest) :=
    ⟨rest, by rw [List.cons_append, List.append_assoc]; rfl⟩
  rcases Nat.le_total noBreakSpace.length ('&' :: (name ++ [';'])).length with long | short
  · exact List.prefix_of_prefix_length_le starts whole long
  obtain ⟨missing, equal⟩ := List.prefix_of_prefix_length_le whole starts short
  cases missing with
  | nil =>
    rw [List.append_nil] at equal
    rw [equal]
  | cons first others =>
    -- Then there is a semicolon in front of the last character.
    have early : ';' ∈ noBreakSpace.dropLast := by
      rw [← equal, List.dropLast_append_of_ne_nil (List.cons_ne_nil _ _)]
      simp
    exact absurd early (by decide)

theorem not_noBreakSpace_prefix_escapeChar (c : Char) : ¬ noBreakSpace <+: escapeChar c := by
  unfold escapeChar
  split_ifs
  · decide
  · decide
  · decide
  · decide
  · decide
  · exact fun starts => absurd starts.length_le (by simp [noBreakSpace])

/-- Escaping makes no no-break space. -/
theorem noBreakSpace_not_infix_escapeKeeping (reserved : Char → Bool) {text : Text}
    (absent : ¬ noBreakSpace <:+: text) : ¬ noBreakSpace <:+: escapeKeeping reserved text := by
  induction text with
  | nil => exact absent
  | cons head rest inductionHypothesis =>
    rw [List.infix_cons_iff, not_or] at absent
    have later := inductionHypothesis absent.2
    rcases escapeKeeping_cons reserved head rest with
      ⟨rfl, completes, written⟩ | ⟨other, written⟩ | ⟨name, body, special, -, -, written⟩
    · obtain ⟨front, behind, body, rfl⟩ := (completesReference_iff rest).mp completes
      have kept := written.symm.trans (escapeKeeping_reference reserved body behind)
      rw [written, List.infix_cons_iff, not_or]
      refine ⟨fun starts => absent.1 ?_, later⟩
      rw [kept] at starts
      refine (noBreakSpace_prefix_reference starts).trans ⟨behind, ?_⟩
      rw [List.cons_append, List.append_assoc]
      rfl
    · rw [written, List.infix_cons_iff, not_or]
      refine ⟨fun starts => other ?_, later⟩
      exact (List.cons_prefix_cons.mp starts).1.symm
    · rw [written, List.infix_cons_iff, not_or]
      refine ⟨fun starts => not_noBreakSpace_prefix_escapeChar head ?_, fun inside => later ?_⟩
      · rw [special]
        exact noBreakSpace_prefix_reference starts
      · obtain ⟨part, starts, ends⟩ := List.infix_iff_prefix_suffix.mp inside
        obtain ⟨behind, rfl⟩ := starts
        rw [List.append_cons] at ends
        have inRest := Text.suffix_of_not_mem (ampersand_not_mem_name body) ends
        exact ((List.prefix_append noBreakSpace behind).isInfix).trans inRest.isInfix

/-- Text with whole references and no no-break space stays where no-break spaces are replaced. -/
theorem replaceAll_append_of_isWhole {text : Text} (whole : IsWhole text)
    (absent : ¬ noBreakSpace <:+: text) (rest : Text) :
    Text.replaceAll noBreakSpace [' '] (text ++ rest) =
      text ++ Text.replaceAll noBreakSpace [' '] rest := by
  induction text with
  | nil => rfl
  | cons head text inductionHypothesis =>
    rw [List.infix_cons_iff, not_or] at absent
    have later := inductionHypothesis (whole.of_suffix (List.suffix_cons head text)) absent.2
    have here : noBreakSpace.isPrefixOf (head :: (text ++ rest)) = false := by
      rw [← Bool.not_eq_true, List.isPrefixOf_iff_prefix]
      intro starts
      have ampersand : head = '&' := (List.cons_prefix_cons.mp starts).1.symm
      subst ampersand
      obtain ⟨name, behind, body, rfl⟩ :=
        (completesReference_iff text).mp (whole text List.suffix_rfl)
      rw [List.append_assoc, List.cons_append] at starts
      refine absent.1 ((noBreakSpace_prefix_reference starts).trans ⟨behind, ?_⟩)
      rw [List.cons_append, List.append_assoc]
      rfl
    unfold Text.replaceAll at later ⊢
    rw [List.cons_append, Text.replaceFrom, here, if_neg Bool.false_ne_true, later]
    rfl

theorem replaceAll_noBreakSpace (rest : Text) :
    Text.replaceAll noBreakSpace [' '] (noBreakSpace ++ rest) =
      ' ' :: Text.replaceAll noBreakSpace [' '] rest := rfl

/-- Joined words come apart again where no-break spaces are replaced. -/
theorem replaceAll_joinLastWords {text : Text} (whole : IsWhole text)
    (absent : ¬ noBreakSpace <:+: text) (rest : Text) :
    Text.replaceAll noBreakSpace [' '] (Text.joinLastWords text ++ rest) =
      text ++ Text.replaceAll noBreakSpace [' '] rest := by
  rcases Text.joinLastWords_cases text with same | joined
  · rw [same]
    exact replaceAll_append_of_isWhole whole absent rest
  by_cases space : ' ' ∈ text
  · obtain ⟨before, behind, rfl, spelled⟩ := Text.joinLastSpace_spells space
    have inFront : before <:+: before ++ ' ' :: behind := (List.prefix_append _ _).isInfix
    have inBack : behind <:+ before ++ ' ' :: behind :=
      (List.suffix_cons ' ' behind).trans (List.suffix_append before _)
    rw [joined, spelled, List.append_assoc, List.append_assoc,
      replaceAll_append_of_isWhole (whole.of_append ⟨by decide, by decide, by decide⟩)
        fun inside => absent (inside.trans inFront),
      replaceAll_noBreakSpace, replaceAll_append_of_isWhole (whole.of_suffix inBack)
        fun inside => absent (inside.trans inBack.isInfix), List.append_assoc]
    rfl
  · rw [joined, Text.joinLastSpace_of_not_mem space]
    exact replaceAll_append_of_isWhole whole absent rest

end Html

end BookMarkup
