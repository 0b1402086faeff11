/-
This file proves when a footnote mark and its note link to each other. Both are found by
their labels, which are escaped alike on both sides, whatever surrounds them. But the last
space of a run of text becomes a no-break space, also when it stands in a label. So a label
without spaces always links, and one with a space links exactly if the mark and the note
both have a space behind their label or neither has one.
-/

import BookMarkup.Hook.Call
import BookMarkup.Proofs.Footnote.Mark
import BookMarkup.Proofs.Footnote.Tag
import BookMarkup.Proofs.Html.Content
import BookMarkup.Proofs.Text.Widow
import BookMarkup.Tools.Known

namespace BookMarkup

namespace Footnote

/-! ### Labels in running text -/

/-- How a label is shown in a run of text that goes on behind its closing bracket. -/
def shownLabel (label behind : Text) : Text :=
  if ' ' ∈ behind then Html.escapeContent label else Text.joinLastSpace (Html.escapeContent label)

theorem joinLastSpace_ne_nil {text : Text} (nonempty : text ≠ []) :
    Text.joinLastSpace text ≠ [] := by
  by_cases space : ' ' ∈ text
  · obtain ⟨before, behind, rfl, joined⟩ := Text.joinLastSpace_spells space
    rw [joined]
    simp [noBreakSpace]
  · rwa [Text.joinLastSpace_of_not_mem space]

theorem escapeContent_ne_nil {text : Text} (nonempty : text ≠ []) :
    Html.escapeContent text ≠ [] := by
  obtain ⟨head, rest, rfl⟩ := List.exists_cons_of_ne_nil nonempty
  rcases Html.escapeContent_cons head rest with ⟨-, kept⟩ | ⟨-, name, -, written⟩
  · rw [kept]
    exact List.cons_ne_nil _ _
  · rw [written]
    exact List.cons_ne_nil _ _

/-- Joining words adds only the characters of a no-break space. -/
theorem mem_joinLastSpace {text : Text} {c : Char} (member : c ∈ Text.joinLastSpace text) :
    c ∈ text ∨ c ∈ noBreakSpace := by
  by_cases space : ' ' ∈ text
  · obtain ⟨before, behind, rfl, joined⟩ := Text.joinLastSpace_spells space
    rw [joined] at member
    simp only [List.mem_append, List.mem_cons] at member ⊢
    tauto
  · rw [Text.joinLastSpace_of_not_mem space] at member
    exact Or.inl member

theorem mem_joinLastSpace_iff {text : Text} {c : Char} (noSpace : c ≠ ' ')
    (other : c ∉ noBreakSpace) : c ∈ Text.joinLastSpace text ↔ c ∈ text := by
  refine ⟨fun member => (mem_joinLastSpace member).resolve_right other, fun member => ?_⟩
  by_cases space : ' ' ∈ text
  · obtain ⟨before, behind, rfl, joined⟩ := Text.joinLastSpace_spells space
    rw [joined]
    simp only [List.mem_append, List.mem_cons] at member ⊢
    rcases member with front | equal | rest
    · exact Or.inl front
    · exact absurd equal noSpace
    · exact Or.inr (Or.inr rest)
  · rwa [Text.joinLastSpace_of_not_mem space]

/-- A label keeps what makes it one. -/
theorem shownLabel_isLabel {label : Text} (nonempty : label ≠ []) (closed : ']' ∉ label)
    (behind : Text) : shownLabel label behind ≠ [] ∧ ']' ∉ shownLabel label behind := by
  have escaped : ']' ∉ Html.escapeContent label :=
    (Html.mem_escapeContent (by decide)).not.mpr closed
  unfold shownLabel
  split_ifs
  · exact ⟨escapeContent_ne_nil nonempty, escaped⟩
  · exact ⟨joinLastSpace_ne_nil (escapeContent_ne_nil nonempty),
      fun member => (mem_joinLastSpace member).elim escaped (by decide)⟩

/-- A label is shown alike in two runs of text if it has no space, or both runs have a space behind
it, or neither has. -/
theorem shownLabel_eq_iff (label first second : Text) :
    shownLabel label first = shownLabel label second ↔
      (' ' ∈ label → (' ' ∈ first ↔ ' ' ∈ second)) := by
  have changes : Text.joinLastSpace (Html.escapeContent label) = Html.escapeContent label ↔
      ' ' ∉ label := by
    rw [Text.joinLastSpace_eq_self_iff, Html.mem_escapeContent (by decide)]
  unfold shownLabel
  by_cases inFirst : ' ' ∈ first
  · by_cases inSecond : ' ' ∈ second
    · simp [inFirst, inSecond]
    · rw [if_pos inFirst, if_neg inSecond, eq_comm, changes]
      simp [inFirst, inSecond]
  · by_cases inSecond : ' ' ∈ second
    · rw [if_neg inFirst, if_pos inSecond, changes]
      simp [inFirst, inSecond]
    · simp [inFirst, inSecond]

/-! ### Runs of text -/

/-- Neither joining words nor escaping makes a bracket with a caret. -/
theorem not_infix_joinLastSpace {text : Text} (absent : ¬ bracket <:+: text) :
    ¬ bracket <:+: Text.joinLastSpace text := by
  by_cases space : ' ' ∈ text
  · obtain ⟨before, behind, rfl, joined⟩ := Text.joinLastSpace_spells space
    rw [joined]
    have apart : Text.Apart bracket before (noBreakSpace ++ behind) :=
      Or.inr fun first inHead => by
        rw [← Option.some.inj inHead]
        decide
    refine Text.not_infix_append (by decide) apart ?_ ?_
    · exact fun inside => absent (inside.trans (List.prefix_append _ _).isInfix)
    · refine Text.not_infix_append (by decide) (Or.inl (by decide)) (by decide) fun inside => ?_
      exact absent (inside.trans
        ((List.suffix_cons ' ' behind).trans (List.suffix_append before _)).isInfix)
  · rwa [Text.joinLastSpace_of_not_mem space]

theorem head?_joinLastSpace {text : Text} {c : Char} (other : c ≠ '&')
    (starts : (Text.joinLastSpace text).head? = some c) : text.head? = some c := by
  by_cases space : ' ' ∈ text
  · obtain ⟨before, behind, rfl, joined⟩ := Text.joinLastSpace_spells space
    rw [joined] at starts
    cases before with
    | nil => exact absurd (Option.some.inj starts).symm other
    | cons head before => exact starts
  · rwa [Text.joinLastSpace_of_not_mem space] at starts

/-- Escaping goes through the parts of a run with a mark. -/
theorem escapeContent_parts (front label behind : Text) :
    Html.escapeContent (front ++ (bracket ++ (label ++ ([']'] ++ behind)))) =
      Html.escapeContent front ++ (bracket ++ (Html.escapeContent label ++
        ([']'] ++ Html.escapeContent behind))) := by
  have opens : Html.EndsReference '[' := ⟨by decide, by decide, by decide⟩
  have closes : Html.EndsReference ']' := ⟨by decide, by decide, by decide⟩
  have inner : Html.escapeContent (label ++ ']' :: behind) =
      Html.escapeContent label ++ ']' :: Html.escapeContent behind :=
    Html.escapeContent_append closes label behind
  have outer := Html.escapeContent_append opens front ('^' :: (label ++ ']' :: behind))
  have opened : Html.escapeContent ('[' :: '^' :: (label ++ ']' :: behind)) =
      bracket ++ Html.escapeContent (label ++ ']' :: behind) := rfl
  rw [opened, inner] at outer
  exact outer

/-- Joining words changes the label to the one that is shown. -/
theorem joinLastWords_escapeContent (front label behind : Text) :
    ∃ front' behind',
      Text.joinLastWords (Html.escapeContent (front ++ (bracket ++ (label ++ ([']'] ++ behind))))) =
        front' ++ (bracket ++ (shownLabel label behind ++ (']' :: behind'))) ∧
      (front' = Html.escapeContent front ∨
        front' = Text.joinLastSpace (Html.escapeContent front)) ∧
      (behind' = Html.escapeContent behind ∨
        behind' = Text.joinLastSpace (Html.escapeContent behind)) := by
  have opens : bracket ≠ [] := by decide
  have closes : [']'] ≠ [] := by decide
  obtain ⟨front', behind', joined, atFront, atEnd⟩ := Text.joinLastWords_parts opens closes
    (by decide) (by decide) (Html.escapeContent front) (Html.escapeContent label)
    (Html.escapeContent behind)
  rw [← escapeContent_parts] at joined
  simp only [Html.mem_escapeContent (by decide : Html.isTouched ' ' = false)] at joined
  exact ⟨front', behind', joined, atFront, atEnd⟩

/-- A mark becomes a superscript with the label that is shown, and no tag stands in front of it. -/
theorem textMarkup_mark {front label behind : Text} (noBracket : ¬ bracket <:+: front)
    (nonempty : label ≠ []) (closed : ']' ∉ label) (noLink : behind.head? ≠ some '(')
    (noNote : behind.head? ≠ some ':') :
    ∃ before after, '<' ∉ before ∧
      Hook.textMarkup (front ++ (bracket ++ (label ++ ([']'] ++ behind)))) =
        before ++ (renderMark (shownLabel label behind) ++ after) := by
  obtain ⟨front', behind', joined, atFront, atEnd⟩ := joinLastWords_escapeContent front label behind
  obtain ⟨some', closed'⟩ := shownLabel_isLabel nonempty closed behind
  have noTag := Html.less_not_mem_escapeContent front
  have plain : '<' ∉ front' := by
    rcases atFront with rfl | rfl
    · exact noTag
    · exact fun member => (mem_joinLastSpace member).elim noTag (by decide)
  have none : ¬ bracket <:+: Html.escapeContent front :=
    Html.not_infix_escapeContent (by decide) (by decide) noBracket
  have noBracket' : ¬ bracket <:+: front' := by
    rcases atFront with rfl | rfl
    · exact none
    · exact not_infix_joinLastSpace none
  have starts {c : Char} (untouched : Html.isTouched c = false) (other : c ≠ '&')
      (absent : behind.head? ≠ some c) : behind'.head? ≠ some c := by
    intro first
    refine absent ((Html.head?_escapeContent untouched).mp ?_)
    rcases atEnd with rfl | rfl
    · exact first
    · exact head?_joinLastSpace other first
  refine ⟨front', interpolateMarks behind', plain, ?_⟩
  rw [Hook.textMarkup, joined, interpolateMarks_mark noBracket' some' closed'
    (starts (by decide) (by decide) noLink) (starts (by decide) (by decide) noNote)]

/-- The start of a note stays as it is but for its label, which is shown like that of a mark. -/
theorem textMarkup_note {label : Text} (nonempty : label ≠ []) (closed : ']' ∉ label)
    (body : Text) :
    ∃ rest, Hook.textMarkup (bracket ++ (label ++ ("]:".toList ++ body))) =
      bracket ++ (shownLabel label body ++ (']' :: ':' :: rest)) := by
  obtain ⟨front', behind', joined, atFront, atEnd⟩ :=
    joinLastWords_escapeContent [] label (':' :: body)
  have nothing : front' = [] := by rcases atFront with rfl | rfl <;> rfl
  have colon : Html.escapeContent (':' :: body) = [':'] ++ Html.escapeContent body := rfl
  have ends : ∃ rest, behind' = ':' :: rest := by
    rw [colon] at atEnd
    rcases atEnd with rfl | rfl
    · exact ⟨_, rfl⟩
    · by_cases space : ' ' ∈ Html.escapeContent body
      · exact ⟨_, Text.joinLastSpace_append_of_mem [':'] space⟩
      · exact ⟨_, Text.joinLastSpace_append_of_not_mem [':'] space⟩
  obtain ⟨rest, rfl⟩ := ends
  have same : shownLabel label (':' :: body) = shownLabel label body :=
    (shownLabel_eq_iff label _ _).mpr fun _ => by simp
  obtain ⟨-, closed'⟩ := shownLabel_isLabel nonempty closed body
  have front : ']' ∉ bracket ++ shownLabel label body := List.not_mem_append (by decide) closed'
  simp only [nothing, same, List.nil_append] at joined
  refine ⟨interpolateMarks rest, ?_⟩
  have written := interpolateMarks_note front rest
  rw [List.append_assoc, List.append_assoc] at written
  rw [← written, ← joined]
  rfl

/-! ### Marks and notes -/

/-- A mark and the note of its label are written with the label as it is shown in the run of text
of each. They link to each other exactly if the label has no space, or there is a space behind it
in both runs or in neither. -/
theorem mark_and_note_linked_iff (setting : Setting) (first second third : RenderState)
    {front label behind : Text} (body : Text) (noBracket : ¬ "[^".toList <:+: front)
    (nonempty : label ≠ []) (closed : ']' ∉ label) (noLink : behind.head? ≠ some '(')
    (noNote : behind.head? ≠ some ':') :
    let mark := shownLabel label behind
    let note := shownLabel label body
    ∃ before after run rest,
      ((Call.text (front ++ ("[^".toList ++ (label ++ ("]".toList ++ behind))))).run setting
          first).result = .ok (before ++ (Hook.writeTags (Hook.markTags mark) ++ (mark ++
            ("</a></sup>".toList ++ after)))) ∧
      '<' ∉ before ∧
      ((Call.text ("[^".toList ++ (label ++ ("]:".toList ++ body)))).run setting second).result =
        .ok run ∧
      ((Call.paragraph run).run setting third).result =
        .ok (markerHtml (third.enter .paragraph none).1 ++ ("<span class=\"footnote\">".toList ++
          (Hook.writeTags (Hook.noteTags note) ++ (note ++ ("</a></sup>".toList ++
            (rest ++ "</span>\n".toList)))))) ∧
      (Hook.AreLinked (Hook.markTags mark) (Hook.noteTags note) ↔
        (' ' ∈ label → (' ' ∈ behind ↔ ' ' ∈ body))) := by
  intro mark note
  obtain ⟨before, after, plain, marked⟩ :=
    textMarkup_mark noBracket nonempty closed noLink noNote
  obtain ⟨rest, noted⟩ := textMarkup_note nonempty closed body
  obtain ⟨some', closed'⟩ := shownLabel_isLabel nonempty closed body
  have written := paragraphMarkup_note some' closed' rest
  rw [Hook.renderMark_eq] at marked
  rw [Hook.renderNote_eq] at written
  simp only [List.append_assoc] at marked written
  exact ⟨before, after, _, rest, congrArg Except.ok marked, plain, congrArg Except.ok noted,
    congrArg (fun html => Except.ok (markerHtml (third.enter .paragraph none).1 ++ html)) written,
    (Hook.areLinked_iff _ _).trans (shownLabel_eq_iff label behind body)⟩

/-- A label with a space and a reserved character links if there are spaces behind it. -/
theorem label_with_space_links :
    let setting : Setting := ⟨{}, .ofFiles []⟩
    let label := "a &lt; b".toList
    ∃ before after run rest,
      ((Call.text "See[^a < b] and on".toList).run setting (.fresh 1)).result =
        .ok (before ++ ("<sup class=\"footnote-mark\" data-number=\"a &lt; b\"".toList ++
          (" id=\"footnote-reference:a &lt; b\"><a href=\"#footnote:a &lt; b\">".toList ++
            (label ++ ("</a></sup>".toList ++ after))))) ∧
      '<' ∉ before ∧
      ((Call.text "[^a < b]: The note".toList).run setting (.fresh 1)).result = .ok run ∧
      ((Call.paragraph run).run setting (.fresh 1)).result =
        .ok ("<div class=\"paragraphs\">".toList ++ ("<span class=\"footnote\">".toList ++
          ("<sup class=\"footnote-text\" data-number=\"a &lt; b\"".toList ++
            (" id=\"footnote:a &lt; b\"><a href=\"#footnote-reference:a &lt; b\">".toList ++
              (label ++ ("</a></sup>".toList ++ (rest ++ "</span>\n".toList))))))) ∧
      Hook.AreLinked (Hook.markTags label) (Hook.noteTags label) := by
  intro setting label
  have noBracket : ¬ "[^".toList <:+: "See".toList := by decide
  have nonempty : "a < b".toList ≠ [] := by decide
  have noLink : " and on".toList.head? ≠ some '(' := by decide
  have mark : shownLabel "a < b".toList " and on".toList = label := by decide +kernel
  have note : shownLabel "a < b".toList " The note".toList = label := by decide +kernel
  have markTags : Hook.writeTags (Hook.markTags label) =
      "<sup class=\"footnote-mark\" data-number=\"a &lt; b\"".toList ++
        " id=\"footnote-reference:a &lt; b\"><a href=\"#footnote:a &lt; b\">".toList := by
    decide +kernel
  have noteTags : Hook.writeTags (Hook.noteTags label) =
      "<sup class=\"footnote-text\" data-number=\"a &lt; b\"".toList ++
        " id=\"footnote:a &lt; b\"><a href=\"#footnote-reference:a &lt; b\">".toList := by
    decide +kernel
  obtain ⟨before, after, run, rest, marked, plain, texted, noted, linked⟩ :=
    mark_and_note_linked_iff setting (.fresh 1) (.fresh 1) (.fresh 1) " The note".toList noBracket
      nonempty (by decide) noLink (by decide)
  rw [mark] at marked linked
  rw [note] at noted linked
  rw [markTags, List.append_assoc] at marked
  rw [noteTags, List.append_assoc] at noted
  exact ⟨before, after, run, rest, marked, plain, texted, noted, linked.mpr fun _ => by decide⟩

/-- A mark and the note of its label may not link to each other: here the label holds the last
space of the run with the mark, but not that of the run with the note. -/
theorem mark_and_note_may_not_link :
    let setting : Setting := ⟨{}, .ofFiles []⟩
    let mark := Hook.markTags "a&nbsp;b".toList
    let note := Hook.noteTags "a b".toList
    ((Call.text "[^a b]".toList).run setting (.fresh 1)).result =
        .ok (Hook.writeTags mark ++ "a&nbsp;b</a></sup>".toList) ∧
      ((Call.text "[^a b]: See there".toList).run setting (.fresh 1)).result =
        .ok "[^a b]: See&nbsp;there".toList ∧
      ((Call.paragraph "[^a b]: See&nbsp;there".toList).run setting (.fresh 1)).result =
        .ok ("<div class=\"paragraphs\"><span class=\"footnote\">".toList ++
          (Hook.writeTags note ++ "a b</a></sup> See&nbsp;there</span>\n".toList)) ∧
      ¬ Hook.PointsAt mark note ∧ ¬ Hook.PointsAt note mark := by
  intro setting mark note
  have marked : Hook.textMarkup "[^a b]".toList =
      Hook.writeTags mark ++ "a&nbsp;b</a></sup>".toList := by decide +kernel
  have noted : Hook.textMarkup "[^a b]: See there".toList = "[^a b]: See&nbsp;there".toList := by
    decide +kernel
  have shown : Hook.paragraphMarkup "[^a b]: See&nbsp;there".toList =
      "<span class=\"footnote\">".toList ++
        (Hook.writeTags note ++ "a b</a></sup> See&nbsp;there</span>\n".toList) := by
    decide +kernel
  have paragraph :
      ((Call.paragraph "[^a b]: See&nbsp;there".toList).run setting (.fresh 1)).result =
        .ok ("<div class=\"paragraphs\">".toList ++
          Hook.paragraphMarkup "[^a b]: See&nbsp;there".toList) := rfl
  rw [shown, ← List.append_assoc] at paragraph
  refine ⟨congrArg Except.ok marked, congrArg Except.ok noted, paragraph, ?_, ?_⟩
  · rintro ⟨target, link, own⟩
    cases link
    exact absurd own (by decide)
  · rintro ⟨target, link, own⟩
    cases link
    exact absurd own (by decide)

end Footnote

end BookMarkup
