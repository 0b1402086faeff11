/-
This file proves which part of a text loses its last space when the last two words are
joined: the last part that has a space. The parts in front of it and behind it stay as
they are.
-/

import BookMarkup.Proofs.Text.Occurrence
import BookMarkup.Text.Widow

namespace BookMarkup

namespace Text

/-- A text with a no-break space for its last space. -/
def joinLastSpace (text : Text) : Text :=
  match breakOnLast [' '] text with
  | some (before, behind) => before ++ (noBreakSpace ++ behind)
  | none => text

theorem breakOnLast_space_eq_none_iff {text : Text} :
    breakOnLast [' '] text = none ↔ ' ' ∉ text := by
  rw [breakOnLast_eq_none_iff (List.cons_ne_nil _ _), List.singleton_infix_iff]

theorem exists_breakOnLast_space {text : Text} (space : ' ' ∈ text) :
    ∃ before behind, breakOnLast [' '] text = some (before, behind) := by
  have found : (breakOnLast [' '] text).isSome = true := by
    rw [Option.isSome_iff_ne_none, Ne, breakOnLast_space_eq_none_iff]
    exact not_not_intro space
  obtain ⟨⟨before, behind⟩, equal⟩ := Option.isSome_iff_exists.mp found
  exact ⟨before, behind, equal⟩

theorem joinLastSpace_of_not_mem {text : Text} (noSpace : ' ' ∉ text) :
    joinLastSpace text = text := by
  rw [joinLastSpace, breakOnLast_space_eq_none_iff.mpr noSpace]

/-- Only the last space is replaced. -/
theorem joinLastSpace_spells {text : Text} (space : ' ' ∈ text) :
    ∃ before behind, text = before ++ ' ' :: behind ∧
      joinLastSpace text = before ++ (noBreakSpace ++ behind) := by
  obtain ⟨before, behind, found⟩ := exists_breakOnLast_space space
  refine ⟨before, behind, ?_, by rw [joinLastSpace, found]⟩
  rw [breakOnLast_spells found, List.append_assoc, List.singleton_append]

theorem joinLastWords_cases (text : Text) :
    joinLastWords text = text ∨ joinLastWords text = joinLastSpace text := by
  unfold joinLastWords joinLastSpace
  cases breakOnLast [' '] text with
  | none => exact Or.inl rfl
  | some parts =>
    dsimp only
    split_ifs
    · exact Or.inl rfl
    · exact Or.inr (List.append_assoc _ _ _)

/-- The last space of a text is that of its last part, if that has one. -/
theorem joinLastSpace_append_of_mem (left : Text) {right : Text} (space : ' ' ∈ right) :
    joinLastSpace (left ++ right) = left ++ joinLastSpace right := by
  obtain ⟨before, behind, found⟩ := exists_breakOnLast_space space
  rw [joinLastSpace, breakOnLast_append_of_some left found, joinLastSpace, found]
  exact List.append_assoc _ _ _

/-- Otherwise it is that of the part in front. -/
theorem joinLastSpace_append_of_not_mem (left : Text) {right : Text} (noSpace : ' ' ∉ right) :
    joinLastSpace (left ++ right) = joinLastSpace left ++ right := by
  have apart : Apart [' '] left right := Or.inr fun first inHead => List.not_mem_nil
  rw [joinLastSpace, breakOnLast_append_of_none (List.cons_ne_nil _ _) apart
    (breakOnLast_space_eq_none_iff.mpr noSpace), joinLastSpace]
  cases breakOnLast [' '] left with
  | none => rfl
  | some parts => simp

/-- A last space that stands neither at the start nor at the end of a text is replaced. -/
theorem joinLastWords_of_inner {left middle right : Text} (starts : left ≠ []) (ends : right ≠ [])
    (space : ' ' ∈ middle) (noSpace : ' ' ∉ right) :
    joinLastWords (left ++ (middle ++ right)) = left ++ (joinLastSpace middle ++ right) := by
  obtain ⟨before, behind, found⟩ := exists_breakOnLast_space space
  have apart : Apart [' '] middle right := Or.inr fun first inHead => List.not_mem_nil
  have inner : breakOnLast [' '] (middle ++ right) = some (before, behind ++ right) := by
    rw [breakOnLast_append_of_none (List.cons_ne_nil _ _) apart
      (breakOnLast_space_eq_none_iff.mpr noSpace), found]
    rfl
  have within : ((left ++ before).isEmpty || (behind ++ right).isEmpty) = false := by
    simp [starts, ends]
  rw [joinLastWords, breakOnLast_append_of_some left inner, joinLastSpace, found]
  simp only [within, Bool.false_eq_true, if_false, List.append_assoc]

/-- The middle part of a text loses its last space exactly if it has one and no part behind it has
one; what opens and closes the middle part stays as it is. -/
theorem joinLastWords_parts {opening closing : Text} (opens : opening ≠ []) (closes : closing ≠ [])
    (noSpaceOpening : ' ' ∉ opening) (noSpaceClosing : ' ' ∉ closing) (front middle behind : Text) :
    ∃ front' behind',
      joinLastWords (front ++ (opening ++ (middle ++ (closing ++ behind)))) =
        front' ++ (opening ++ ((if ' ' ∈ behind then middle else joinLastSpace middle) ++
          (closing ++ behind'))) ∧
      (front' = front ∨ front' = joinLastSpace front) ∧
      (behind' = behind ∨ behind' = joinLastSpace behind) := by
  by_cases later : ' ' ∈ behind
  · rw [if_pos later]
    rcases joinLastWords_cases (front ++ (opening ++ (middle ++ (closing ++ behind)))) with
      same | joined
    · exact ⟨front, behind, same, Or.inl rfl, Or.inl rfl⟩
    · refine ⟨front, joinLastSpace behind, joined.trans ?_, Or.inl rfl, Or.inr rfl⟩
      have whole := joinLastSpace_append_of_mem (front ++ (opening ++ (middle ++ closing))) later
      simpa only [List.append_assoc] using whole
  rw [if_neg later]
  have noSpaceBehind : ' ' ∉ closing ++ behind := List.not_mem_append noSpaceClosing later
  by_cases here : ' ' ∈ middle
  · refine ⟨front, behind, ?_, Or.inl rfl, Or.inl rfl⟩
    have starts : front ++ opening ≠ [] := by simp [opens]
    have ends : closing ++ behind ≠ [] := by simp [closes]
    have whole := joinLastWords_of_inner starts ends here noSpaceBehind
    simpa only [List.append_assoc] using whole
  · rw [joinLastSpace_of_not_mem here]
    have noSpace : ' ' ∉ opening ++ (middle ++ (closing ++ behind)) :=
      List.not_mem_append noSpaceOpening (List.not_mem_append here noSpaceBehind)
    rcases joinLastWords_cases (front ++ (opening ++ (middle ++ (closing ++ behind)))) with
      same | joined
    · exact ⟨front, behind, same, Or.inl rfl, Or.inl rfl⟩
    · refine ⟨joinLastSpace front, behind, joined.trans ?_, Or.inr rfl, Or.inl rfl⟩
      exact joinLastSpace_append_of_not_mem front noSpace

/-- Joining changes a text that has a space. -/
theorem joinLastSpace_eq_self_iff {text : Text} : joinLastSpace text = text ↔ ' ' ∉ text := by
  refine ⟨fun same space => ?_, joinLastSpace_of_not_mem⟩
  obtain ⟨before, behind, rfl, joined⟩ := joinLastSpace_spells space
  have lengths := congrArg List.length (joined.symm.trans same)
  simp only [List.length_append, List.length_cons, noBreakSpace] at lengths
  have size : "&nbsp;".toList.length = 6 := rfl
  omega

/-- Joining words neither makes nor destroys a front that has no space and no ampersand. -/
theorem prefix_joinLastSpace_iff {front text : Text} (noSpace : ' ' ∉ front) (other : '&' ∉ front) :
    front <+: joinLastSpace text ↔ front <+: text := by
  by_cases space : ' ' ∈ text
  · obtain ⟨before, behind, rfl, joined⟩ := joinLastSpace_spells space
    rw [joined]
    exact ⟨fun starts => (prefix_of_not_mem other starts).trans (List.prefix_append _ _),
      fun starts => (prefix_of_not_mem noSpace starts).trans (List.prefix_append _ _)⟩
  · rw [joinLastSpace_of_not_mem space]

/-! ### A part in front -/

/-- The last two words of a text are those of its last part, if that has a space behind its first
character. -/
theorem joinLastWords_append_of_mem (left : Text) {right : Text} (starts : right.head? ≠ some ' ')
    (space : ' ' ∈ right) : joinLastWords (left ++ right) = left ++ joinLastWords right := by
  obtain ⟨before, behind, found⟩ := exists_breakOnLast_space space
  have spelled := breakOnLast_spells found
  have inner : before ≠ [] := by
    rintro rfl
    exact starts (by rw [spelled]; rfl)
  rw [joinLastWords, breakOnLast_append_of_some left found, joinLastWords, found]
  simp only [List.isEmpty_iff, List.append_eq_nil_iff, Bool.or_eq_true, inner, and_false, false_or]
  split_ifs
  · rfl
  · simp only [List.append_assoc]

/-- A last part without a space is kept, and the part in front of it loses the last space behind its
first character. -/
theorem joinLastWords_cons_append_of_not_mem (head : Char) (left : Text) {right : Text}
    (nonempty : right ≠ []) (noSpace : ' ' ∉ right) :
    joinLastWords (head :: left ++ right) = head :: joinLastSpace left ++ right := by
  by_cases space : ' ' ∈ left
  · exact joinLastWords_of_inner (List.cons_ne_nil head []) nonempty space noSpace
  · have later : ' ' ∉ left ++ right := List.not_mem_append space noSpace
    rw [joinLastSpace_of_not_mem space, List.cons_append]
    unfold joinLastWords
    by_cases first : head = ' '
    · subst first
      have found : breakOnLast [' '] (' ' :: (left ++ right)) = some ([], left ++ right) := by
        rw [breakOnLast, breakOnLast_space_eq_none_iff.mpr later]
        rfl
      rw [found]
      rfl
    · have absent : ' ' ∉ head :: (left ++ right) :=
        List.not_mem_cons_of_ne_of_not_mem (Ne.symm first) later
      rw [breakOnLast_space_eq_none_iff.mpr absent]

/-- The first character of a text is never replaced. -/
theorem joinLastWords_cons (head : Char) (rest : Text) :
    ∃ rest', joinLastWords (head :: rest) = head :: rest' := by
  unfold joinLastWords
  cases found : breakOnLast [' '] (head :: rest) with
  | none => exact ⟨rest, rfl⟩
  | some parts =>
    obtain ⟨before, behind⟩ := parts
    dsimp only
    split_ifs with atEnd
    · exact ⟨rest, rfl⟩
    · have spelled := breakOnLast_spells found
      cases before with
      | nil => simp at atEnd
      | cons first before =>
        rw [List.cons_append, List.cons_append] at spelled
        rw [(List.cons.inj spelled).1]
        exact ⟨_, rfl⟩

theorem joinLastWords_of_not_mem {text : Text} (noSpace : ' ' ∉ text) :
    joinLastWords text = text :=
  joinLastWords_of_breakOnLast_eq_none text (breakOnLast_space_eq_none_iff.mpr noSpace)

end Text

end BookMarkup
