/-
This file says which texts are prose: all their lines start with a word or an em dash and
end with a word. Such text is bare, so stripping a quote takes off the paragraph tags around
it and nothing else.
-/

import BookMarkup.Proofs.Quote.Bare
import BookMarkup.Proofs.Text.Line
import BookMarkup.Proofs.Text.Word

namespace BookMarkup

namespace Quote

/-! ### Solid ends -/

/-- Whether a text starts with a word or an em dash and ends with a word. -/
structure IsSolid (text : Text) : Prop where
  starts : ∃ first ∈ text.head?, first = '\u2014' ∨ isWord first = true
  ends : ∃ last ∈ text.getLast?, isWord last = true

theorem isSolid_iff (text : Text) :
    text.head?.any (fun first => first == '\u2014' || isWord first) = true ∧
      text.getLast?.any isWord = true ↔ IsSolid text := by
  simp only [Option.any_eq_true, Bool.or_eq_true, beq_iff_eq]
  exact ⟨fun solid => ⟨solid.1, solid.2⟩, fun solid => ⟨solid.starts, solid.ends⟩⟩

instance (text : Text) : Decidable (IsSolid text) :=
  decidable_of_iff _ (isSolid_iff text)

/-- What stands between solid ends does not matter. -/
theorem IsSolid.append {front behind : Text} (first : IsSolid front) (last : IsSolid behind)
    (between : Text) : IsSolid (front ++ (between ++ behind)) := by
  obtain ⟨head, inHead, start⟩ := first.starts
  obtain ⟨final, inLast, word⟩ := last.ends
  refine ⟨⟨head, ?_, start⟩, final, ?_, word⟩
  · rw [List.head?_append, Option.mem_def.mp inHead]
    rfl
  · rw [← List.append_assoc, List.getLast?_append, Option.mem_def.mp inLast]
    rfl

theorem IsSolid.head {text : Text} (solid : IsSolid text) :
    ∃ first rest, text = first :: rest ∧ isBlank first = false ∧ isOpeningMark first = false ∧
      first ≠ '[' := by
  obtain ⟨first, inHead, start⟩ := solid.starts
  obtain ⟨rest, rfl⟩ := List.head?_eq_some_iff.mp (Option.mem_def.mp inHead)
  refine ⟨first, rest, rfl, ?_⟩
  rcases start with rfl | word
  · decide
  · refine ⟨isBlank_eq_false_of_isWord word, (not_mark_of_isWord word).1, ?_⟩
    rintro rfl
    exact absurd word (by decide)

theorem IsSolid.last {text : Text} (solid : IsSolid text) :
    ∃ front last, text = front ++ [last] ∧ isBlank last = false ∧ isClosingMark last = false ∧
      last ≠ '>' := by
  obtain ⟨last, inLast, word⟩ := solid.ends
  obtain ⟨front, rfl⟩ := List.getLast?_eq_some_iff.mp (Option.mem_def.mp inLast)
  refine ⟨front, last, rfl, isBlank_eq_false_of_isWord word, (not_mark_of_isWord word).2, ?_⟩
  rintro rfl
  exact absurd word (by decide)

/-- Nothing is stripped off solid text. -/
theorem IsSolid.isBare {text : Text} (solid : IsSolid text) : IsBare text := by
  obtain ⟨first, others, equal, visibleFirst, noOpening, -⟩ := solid.head
  obtain ⟨front, last, rfl, visibleLast, noClosing, other⟩ := solid.last
  have inLast : last ∈ (front ++ [last]).getLast? := List.getLast?_concat
  refine ⟨⟨first, ?_, visibleFirst, noOpening⟩, ⟨last, inLast, visibleLast, noClosing⟩,
    not_tag_suffix inLast other rfl, not_tag_suffix inLast other rfl⟩
  rw [equal]
  rfl

/-! ### Prose -/

/-- Whether a text is prose: its lines are solid, and no tag and no address stands in it. -/
structure IsProse (text : Text) : Prop where
  solid : ∀ line ∈ Text.lines text, IsSolid line
  noTag : '<' ∉ text
  noAddress : ¬ "://".toList <:+: text

theorem isProse_iff (text : Text) :
    (Text.lines text).all (fun line => IsSolid line) = true ∧ '<' ∉ text ∧
      Text.occursIn "://".toList text = false ↔ IsProse text := by
  rw [← Bool.not_eq_true, Text.occursIn_iff (by decide), List.all_eq_true]
  simp only [decide_eq_true_eq]
  exact ⟨fun prose => ⟨prose.1, prose.2.1, prose.2.2⟩,
    fun prose => ⟨prose.solid, prose.noTag, prose.noAddress⟩⟩

instance (text : Text) : Decidable (IsProse text) :=
  decidable_of_iff _ (isProse_iff text)

/-- What stands on either side of a line end in prose is prose. -/
theorem IsProse.of_lineEnd {front rest : Text} (prose : IsProse (front ++ '\n' :: rest)) :
    IsProse front ∧ IsProse rest := by
  obtain ⟨solid, noTag, noAddress⟩ := prose
  rw [Text.lines_append_lineEnd] at solid
  obtain ⟨before, behind⟩ := List.forall_mem_append.mp solid
  have first : front <+: front ++ '\n' :: rest := List.prefix_append _ _
  have second : rest <:+ front ++ '\n' :: rest :=
    (List.suffix_cons _ _).trans (List.suffix_append _ _)
  exact ⟨⟨before, fun member => noTag (first.subset member),
      fun inside => noAddress (inside.trans first.isInfix)⟩,
    behind, fun member => noTag (second.subset member),
      fun inside => noAddress (inside.trans second.isInfix)⟩

/-- Prose is solid. -/
theorem IsProse.isSolid {text : Text} (prose : IsProse text) : IsSolid text := by
  by_cases oneLine : '\n' ∈ text
  · obtain ⟨front, rest, rfl, plain⟩ := List.eq_append_cons_of_mem oneLine
    obtain ⟨before, behind⟩ := prose.of_lineEnd
    have first : IsSolid front := before.solid front (by
      rw [Text.lines_of_oneLine plain]
      exact List.mem_cons_self)
    exact first.append behind.isSolid ['\n']
  · refine prose.solid text ?_
    rw [Text.lines_of_oneLine oneLine]
    exact List.mem_cons_self
termination_by text.length
decreasing_by
  subst_vars
  simp only [List.length_append, List.length_cons]
  omega

end Quote

end BookMarkup
