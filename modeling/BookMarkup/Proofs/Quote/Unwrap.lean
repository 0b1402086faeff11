/-
This file proves which paragraph tags a quote loses when the ends of its body are stripped.
A start tag at the front goes, whether its end tag follows at the end or not. At the end an
end tag goes, and so does a start tag, which takes one character more with it. Blanks and
quote marks go without a trace. The end is looked at behind the front, so what is dropped
at the front may hide a tag at the end if nothing is left between them.
-/

import BookMarkup.Proofs.Quote.Bare
import BookMarkup.Proofs.Quote.ParagraphTag

namespace BookMarkup

namespace Quote

open BookMarkup.Group

/-! ### Steps that keep all tags -/

theorem tags_trimStart (text : Text) : tags (Text.trimStart text) = tags text := by
  have plain : '<' ∉ text.takeWhile isBlank := fun member =>
    absurd (List.all_eq_true.mp List.all_takeWhile '<' member) (by decide)
  have whole := tags_plain_append plain (text.dropWhile isBlank)
  rw [List.takeWhile_append_dropWhile] at whole
  exact whole.symm

theorem tags_trimEnd (text : Text) : tags (Text.trimEnd text) = tags text := by
  obtain ⟨blanks, blank, whole⟩ := Text.exists_trimEnd_append text
  have noEnd : '>' ∉ blanks := fun member => absurd (blank '>' member) (by decide)
  conv_rhs => rw [whole]
  exact (tags_append_of_open _ noEnd).symm

theorem tags_trim (text : Text) : tags (Text.trim text) = tags text :=
  (tags_trimEnd _).trans (tags_trimStart text)

theorem tags_dropOpeningMark (body : Text) : tags (dropOpeningMark body) = tags body := by
  unfold dropOpeningMark
  split
  · next head rest =>
    split
    · next isMark =>
      exact (tags_trim rest).trans (tags_plain_append (plain_openingMark isMark) rest).symm
    · rfl
  · rfl

theorem tags_dropClosingMark (body : Text) : tags (dropClosingMark body) = tags body := by
  unfold dropClosingMark
  split
  · next closing =>
    obtain ⟨last, inLast, isMark⟩ := (Option.any_eq_true _ _).mp closing
    obtain ⟨front, rfl⟩ := List.getLast?_eq_some_iff.mp inLast
    rw [List.dropLast_concat, tags_trim, tags_append_of_open front (open_closingMark isMark)]
  · rfl

/-! ### The tag at the end -/

/-- Whether some markup does not end in a paragraph tag. -/
def IsUnfinished (html : Text) : Prop :=
  ∀ tag : ParagraphTag, ¬ tag.html <:+ html

theorem isUnfinished_of_getLast? {html : Text} (other : ∀ last ∈ html.getLast?, last ≠ '>') :
    IsUnfinished html := by
  rintro tag ⟨front, rfl⟩
  obtain ⟨name, spelled, -, -⟩ := tag.html_spells
  have ends : tag.html.getLast? = some '>' := by
    rw [spelled, ← List.cons_append]
    exact List.getLast?_concat
  exact other '>' ((List.getLast?_append_of_ne_nil front tag.html_ne_nil).trans ends) rfl

/-- Markup that starts with another tag and holds none of a paragraph ends in none. -/
theorem isUnfinished_append {html : Text} (starts : html.head? = some '<') (quiet : tags html = [])
    (front : Text) : IsUnfinished (front ++ html) := by
  rintro tag ⟨before, equal⟩
  have absent := tags_eq_nil_iff.mp quiet tag
  rcases List.append_eq_append_iff.mp equal with ⟨more, -, inTag⟩ | ⟨more, -, inHtml⟩
  · obtain ⟨name, spelled, noStart, -⟩ := tag.html_spells
    cases more with
    | nil => exact absent (inTag ▸ List.infix_refl _)
    | cons first more =>
      rw [spelled] at inTag
      have later : '<' ∈ name ++ ['>'] := by
        rw [(List.cons.inj inTag).2]
        exact List.mem_append_right _ (List.mem_of_head? starts)
      exact List.not_mem_append noStart (by decide) later
  · exact absent ⟨more, [], by rw [List.append_nil, ← inHtml]⟩

theorem dropEndTag_of_unfinished {body : Text} (unfinished : IsUnfinished body) :
    dropEndTag body = body :=
  dropEndTag_of_not_suffix (unfinished .start) (unfinished .stop)

theorem tags_dropEndTag_stop (front : Text) : tags (dropEndTag (front ++ stop)) = tags front := by
  have ends : stop.isSuffixOf (front ++ stop) = true :=
    List.isSuffixOf_iff_suffix.mpr (List.suffix_append front stop)
  unfold dropEndTag
  rw [← stop, ends, Bool.true_or, if_pos rfl, take_append_stop, tags_trim]

/-- A start tag takes the character in front of it with it. -/
theorem tags_dropEndTag_start {front : Text} (unfinished : IsUnfinished front) :
    tags (dropEndTag (front ++ "<p>".toList)) = tags front := by
  have ends : "<p>".toList.isSuffixOf (front ++ "<p>".toList) = true :=
    List.isSuffixOf_iff_suffix.mpr (List.suffix_append front _)
  unfold dropEndTag
  rw [ends, Bool.or_true, if_pos rfl, take_append_start, tags_trim]
  cases front using List.reverseRecOn with
  | nil => rfl
  | append_singleton front last =>
    rw [List.dropLast_concat]
    exact (Text.signs_concat_of_not_suffix (forall_mem_tagNeedles fun tag =>
      ⟨tag.html_ne_nil, unfinished tag⟩)).symm

/-! ### The tag at the front -/

theorem dropStartTag_start (rest : Text) :
    dropStartTag ("<p>".toList ++ rest) = Text.trim rest := by
  rw [dropStartTag, Text.after?_append]

theorem trim_tag (tag : ParagraphTag) (front : Text) {blanks : Text}
    (blank : ∀ c ∈ blanks, isBlank c = true) :
    Text.trim (front ++ (tag.html ++ blanks)) = Text.trimStart front ++ tag.html := by
  obtain ⟨name, spelled, -, -⟩ := tag.html_spells
  have visible : ∃ first ∈ (tag.html ++ blanks).head?, isBlank first = false :=
    ⟨'<', by rw [spelled]; rfl, by decide⟩
  have ending :
      Text.trimStart front ++ tag.html = Text.trimStart front ++ '<' :: name ++ ['>'] := by
    rw [spelled]
    simp only [List.append_assoc, List.cons_append]
  rw [Text.trim, Text.trimStart_append_of_visible visible, ← List.append_assoc,
    Text.trimEnd_append_blanks _ blank, ending, Text.trimEnd_concat (by decide)]

/-- A tag at the end stays there when the front is stripped. -/
theorem exists_front_tag (tag : ParagraphTag) (front : Text) {blanks : Text}
    (blank : ∀ c ∈ blanks, isBlank c = true) :
    ∃ inner, dropOpeningMark (Text.trim (front ++ (tag.html ++ blanks))) = inner ++ tag.html ∧
      inner <:+ front ∧ tags inner = tags front := by
  have inside : Text.trimStart front <:+ front := List.dropWhile_suffix isBlank
  have same := tags_trimStart front
  rw [trim_tag tag front blank]
  generalize Text.trimStart front = rest at inside same ⊢
  cases rest with
  | nil =>
    refine ⟨[], ?_, inside, same⟩
    cases tag <;> rfl
  | cons head rest =>
    rw [List.cons_append, dropOpeningMark]
    split
    · next isMark =>
      have marked : tags (head :: rest) = tags (Text.trimStart rest) := by
        have dropped := tags_dropOpeningMark (head :: rest)
        rw [dropOpeningMark, if_pos isMark, tags_trim] at dropped
        exact dropped.symm.trans (tags_trimStart rest).symm
      have none : ∀ c ∈ ([] : Text), isBlank c = true := List.forall_mem_nil _
      have trimmed := trim_tag tag rest none
      rw [List.append_nil] at trimmed
      refine ⟨Text.trimStart rest, trimmed, ?_, marked.symm.trans same⟩
      exact ((List.dropWhile_suffix isBlank).trans (List.suffix_cons head rest)).trans inside
    · exact ⟨head :: rest, rfl, inside, same⟩

/-! ### The whole body -/

/-- A body that is a paragraph element, as far as its ends tell, loses both its tags. -/
theorem tags_stripMarks_closed (inner : Text) {blanks : Text}
    (blank : ∀ c ∈ blanks, isBlank c = true) :
    tags (stripMarks ("<p>".toList ++ (inner ++ (stop ++ blanks)))) = tags inner := by
  obtain ⟨front, stripped, -, same⟩ := exists_front_tag .stop inner blank
  rw [stripMarks, tags_dropClosingMark, dropStartTag_start]
  refine Eq.trans ?_ ((tags_dropEndTag_stop front).trans same)
  exact congrArg (fun body => tags (dropEndTag body)) stripped

/-- A body between two start tags loses them both. -/
theorem tags_stripMarks_bare {inner : Text} (unfinished : IsUnfinished inner) :
    tags (stripMarks ("<p>".toList ++ (inner ++ "<p>".toList))) = tags inner := by
  have none : ∀ c ∈ ([] : Text), isBlank c = true := List.forall_mem_nil _
  obtain ⟨front, stripped, atEnd, same⟩ := exists_front_tag .start inner none
  have still : IsUnfinished front := fun tag ends => unfinished tag (ends.trans atEnd)
  rw [List.append_nil] at stripped
  rw [stripMarks, tags_dropClosingMark, dropStartTag_start]
  refine Eq.trans ?_ ((tags_dropEndTag_start still).trans same)
  exact congrArg (fun body => tags (dropEndTag body)) stripped

/-- A tag at the end of what is left when the front is stripped was there before. -/
theorem isUnfinished_stripped {body : Text} (unfinished : IsUnfinished (Text.trimEnd body)) :
    IsUnfinished (dropOpeningMark (dropStartTag body)) := fun tag ends =>
  unfinished tag (suffix_trimEnd_of_stripped ⟨'>', by cases tag <;> rfl, by decide⟩ ends)

/-- A body that starts with a start tag and does not end in a tag loses just that. -/
theorem tags_stripMarks_opened {rest : Text}
    (unfinished : IsUnfinished (dropOpeningMark (Text.trim rest))) :
    tags (stripMarks ("<p>".toList ++ rest)) = tags rest := by
  rw [stripMarks, tags_dropClosingMark, dropStartTag_start, dropEndTag_of_unfinished unfinished,
    tags_dropOpeningMark, tags_trim]

section Other

variable {body : Text} (starts : ∀ first ∈ body.head?, first = '<')
  (other : ¬ "<p>".toList <+: body)

include starts other

/-- Nothing goes at the front of a body that starts with another tag. -/
theorem tags_stripMarks_of_other : tags (stripMarks body) = tags (dropEndTag body) := by
  have kept : dropOpeningMark body = body := by
    cases body with
    | nil => rfl
    | cons head rest =>
      cases starts head rfl
      rfl
  rw [stripMarks, tags_dropClosingMark, dropStartTag, Text.after?_eq_none other]
  dsimp only
  rw [kept]

end Other

end Quote

end BookMarkup
