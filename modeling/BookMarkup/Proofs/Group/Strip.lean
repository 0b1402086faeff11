/-
This file proves which group markers a quote keeps when the ends of its body are
stripped. Blanks, quote marks and the start tag at the front go without a trace. At the
end, an end tag takes only itself; but a start tag, which ends the body when its
paragraph starts with the citation, takes one character more, and with it the marker in
front of it.
-/

import BookMarkup.Proofs.Group.Outline

namespace BookMarkup

namespace Group

/-! ### Alike texts -/

/-- Whether two texts have the same group markers, in all and up to a paragraph end. -/
structure SameMarks (first second : Text) : Prop where
  all : marks first = marks second
  kept : marks (Quote.beforeParagraphEnd first) = marks (Quote.beforeParagraphEnd second)

/-- Whether, besides, both or none of two texts end in a marker and a start tag. -/
structure Alike (first second : Text) : Prop extends SameMarks first second where
  bare : endsBare first = endsBare second

theorem SameMarks.trans {first second third : Text} (left : SameMarks first second)
    (right : SameMarks second third) : SameMarks first third :=
  ⟨left.all.trans right.all, left.kept.trans right.kept⟩

theorem Alike.refl (text : Text) : Alike text text := ⟨⟨rfl, rfl⟩, rfl⟩

theorem Alike.symm {first second : Text} (alike : Alike first second) : Alike second first :=
  ⟨⟨alike.all.symm, alike.kept.symm⟩, alike.bare.symm⟩

theorem Alike.trans {first second third : Text} (left : Alike first second)
    (right : Alike second third) : Alike first third :=
  ⟨left.toSameMarks.trans right.toSameMarks, left.bare.trans right.bare⟩

theorem keptMarks_of_alike {first second : Text} (alike : Alike first second) :
    keptMarks first = keptMarks second := by
  rw [keptMarks, keptMarks, alike.all, alike.bare]

/-- Text without the start of a tag changes nothing at the front. -/
theorem alike_plain_append {front : Text} (plain : '<' ∉ front) (rest : Text) :
    Alike (front ++ rest) rest := by
  refine ⟨⟨marks_plain_append plain rest, ?_⟩, endsBare_append ?_⟩
  · rw [beforeParagraphEnd_tame_append (isTame_of_plain plain), marks_plain_append plain]
  · rintro marker before overlap blanks - rfl
    exact absurd (List.mem_append_right _ List.mem_cons_self) plain

/-- The start tag of a paragraph changes nothing at the front. -/
theorem alike_start_append (rest : Text) : Alike ("<p>".toList ++ rest) rest := by
  have mute (rest : Text) : marks ("<p>".toList ++ rest) = marks rest :=
    marks_mute_append (by decide) (by decide) rest
  have apart : Text.Apart stop "<p>".toList rest := Or.inl (by decide)
  refine ⟨⟨mute rest, ?_⟩, endsBare_append ?_⟩
  · rw [beforeParagraphEnd_append apart (by decide), mute]
  · rintro marker before overlap blanks - whole later
    cases before with
    | nil =>
      have tail : "p>".toList = overlap := (List.cons.inj whole).2
      rw [← tail] at later
      cases marker with
      | opener => exact absurd (List.cons.inj later).1 (by decide)
      | closer => exact absurd (List.cons.inj later).1 (by decide)
    | cons first before =>
      have tail : "p>".toList = before ++ '<' :: overlap := (List.cons.inj whole).2
      have inside : '<' ∈ "p>".toList := by
        rw [tail]
        exact List.mem_append_right _ List.mem_cons_self
      exact absurd inside (by decide)

/-- Text without the end of a tag adds no markers at the end. -/
theorem sameMarks_append_of_open (text : Text) {behind : Text} (noEnd : '>' ∉ behind) :
    SameMarks (text ++ behind) text := by
  refine ⟨marks_append_of_open text noEnd, ?_⟩
  cases ends : hasStop text with
  | true => rw [beforeParagraphEnd_of_hasStop ends]
  | false =>
    have noStop : hasStop (text ++ behind) = false := by
      rw [hasStop_eq_false_iff, ← Text.signs_singleton_eq_nil_iff stop_ne_nil] at ends ⊢
      rw [Text.signs_append_of_lasts, ends]
      intro c member needle isNeedle
      rw [List.mem_singleton.mp isNeedle]
      refine ⟨"</p".toList, '>', by decide, ?_⟩
      rintro rfl
      exact noEnd member
    rw [beforeParagraphEnd_of_not_hasStop ends, beforeParagraphEnd_of_not_hasStop noStop,
      marks_append_of_open text noEnd]

/-- Trimming changes nothing. -/
theorem alike_trim (text : Text) : Alike (Text.trim text) text := by
  have atStart : Alike text (Text.trimStart text) := by
    have plain : '<' ∉ text.takeWhile isBlank := fun member =>
      absurd (List.all_eq_true.mp List.all_takeWhile '<' member) (by decide)
    have alike := alike_plain_append plain (text.dropWhile isBlank)
    rwa [List.takeWhile_append_dropWhile] at alike
  obtain ⟨blanks, blank, whole⟩ := Text.exists_trimEnd_append (Text.trimStart text)
  have noEnd : '>' ∉ blanks := fun member => absurd (blank '>' member) (by decide)
  have atEnd : Alike (Text.trimEnd (Text.trimStart text) ++ blanks) (Text.trim text) :=
    ⟨sameMarks_append_of_open _ noEnd, by
      rw [← whole, endsBare, endsBare, Text.trimEnd_trim, Text.trim]⟩
  rw [← whole] at atEnd
  exact (atStart.trans atEnd).symm

/-! ### The front of a body -/

theorem alike_dropStartTag (body : Text) : Alike (Quote.dropStartTag body) body := by
  unfold Quote.dropStartTag
  split
  · next rest found =>
    rw [Text.after?_spells found]
    exact (alike_trim rest).trans (alike_start_append rest).symm
  · exact Alike.refl body

theorem plain_openingMark {mark : Char} (isMark : Quote.isOpeningMark mark = true) :
    '<' ∉ [mark] := by
  intro member
  rw [← List.mem_singleton.mp member] at isMark
  exact absurd isMark (by decide)

theorem alike_dropOpeningMark (body : Text) : Alike (Quote.dropOpeningMark body) body := by
  unfold Quote.dropOpeningMark
  split
  · next head rest =>
    split
    · next isMark =>
      exact (alike_trim rest).trans (alike_plain_append (plain_openingMark isMark) rest).symm
    · exact Alike.refl _
  · exact Alike.refl _

/-- A trimmed body stays trimmed when its front is stripped. -/
theorem trimEnd_dropOpeningMark_dropStartTag {body : Text} (trimmed : Text.trimEnd body = body) :
    Text.trimEnd (Quote.dropOpeningMark (Quote.dropStartTag body)) =
      Quote.dropOpeningMark (Quote.dropStartTag body) := by
  have inner : Text.trimEnd (Quote.dropStartTag body) = Quote.dropStartTag body := by
    unfold Quote.dropStartTag
    split
    · exact Text.trimEnd_trim _
    · exact trimmed
  revert inner
  generalize Quote.dropStartTag body = rest
  intro inner
  unfold Quote.dropOpeningMark
  split
  · split
    · exact Text.trimEnd_trim _
    · exact inner
  · rfl

/-! ### The end of a body -/

/-- The start tag at the end of a body is bare if a marker stands in front of it. -/
theorem endsBare_append_start_iff {front : Text} :
    endsBare (front ++ "<p>".toList) = true ↔ ∃ marker : GroupMarker, marker.html <:+ front := by
  rw [endsBare_iff_suffix, trimEnd_append_start]
  constructor
  · rintro ⟨marker, before, equal⟩
    rw [← List.append_assoc] at equal
    exact ⟨marker, before, List.append_cancel_right equal⟩
  · rintro ⟨marker, before, rfl⟩
    exact ⟨marker, before, (List.append_assoc _ _ _).symm⟩

/-- Without its last character a text has lost the marker at its end, if there is one. -/
theorem marks_dropLast (front : Text) :
    marks front.dropLast =
      if endsBare (front ++ "<p>".toList) then (marks front).dropLast else marks front := by
  split
  · next bare =>
    obtain ⟨marker, before, rfl⟩ := endsBare_append_start_iff.mp bare
    have opened : ∀ first ∈ marker.html.head?, first = '<' ∨ first = '\n' := by
      cases marker <;> decide
    have broken : ∀ first ∈ marker.html.dropLast.head?, first = '<' ∨ first = '\n' := by
      cases marker <;> decide
    have one : marks marker.html = [marker] := marks_markerHtml (some marker)
    have none : marks marker.html.dropLast = [] := by cases marker <;> decide
    rw [List.dropLast_append_of_ne_nil (marker_ne_nil marker), marks_append_of_head? broken,
      marks_append_of_head? opened, one, none, List.append_nil, List.dropLast_concat]
  · next noMarker =>
    rw [endsBare_append_start_iff, not_exists] at noMarker
    cases front using List.reverseRecOn with
    | nil => rfl
    | append_singleton front last =>
      rw [List.dropLast_concat]
      refine (Text.signs_concat_of_not_suffix (forall_mem_needles fun marker => ?_)).symm
      exact ⟨marker_ne_nil marker, noMarker marker⟩

theorem marks_append_stop (front : Text) : marks (front ++ stop) = marks front :=
  marks_append_mute (by decide) (by decide) front

theorem take_append_stop (front : Text) :
    (front ++ stop).take ((front ++ stop).length - 4) = front := by
  have size : (front ++ stop).length - 4 = front.length := by
    rw [List.length_append]
    exact Nat.add_sub_cancel front.length 4
  rw [size, List.take_left]

theorem take_append_start (front : Text) :
    (front ++ "<p>".toList).take ((front ++ "<p>".toList).length - 4) = front.dropLast := by
  have size : (front ++ "<p>".toList).length - 4 = front.length - 1 := by
    rw [List.length_append]
    exact Nat.add_sub_add_right front.length 3 1
  rw [size, List.take_append_of_le_length (Nat.sub_le _ _), List.dropLast_eq_take]

theorem not_start_suffix_append_stop (front : Text) : ¬ "<p>".toList <:+ front ++ stop := by
  intro isSuffix
  have inside : "<p>".toList <:+ stop :=
    List.suffix_of_suffix_length_le isSuffix (List.suffix_append front stop) (by decide)
  exact absurd inside (by decide)

/-- Dropping the tag at the end of a trimmed body keeps the markers that are not broken. -/
theorem marks_dropEndTag {body : Text} (trimmed : Text.trimEnd body = body) :
    marks (Quote.dropEndTag body) = keptMarks body := by
  have notBare (other : ¬ "<p>".toList <:+ body) : keptMarks body = marks body := by
    refine if_neg fun bare => other ?_
    obtain ⟨marker, isSuffix⟩ := endsBare_iff_suffix.mp bare
    rw [trimmed] at isSuffix
    exact (List.suffix_append _ _).trans isSuffix
  unfold Quote.dropEndTag
  split
  · next tag =>
    rw [(alike_trim _).all]
    rw [Bool.or_eq_true, List.isSuffixOf_iff_suffix, List.isSuffixOf_iff_suffix] at tag
    rcases tag with ⟨front, rfl⟩ | ⟨front, rfl⟩
    · rw [notBare (not_start_suffix_append_stop front)]
      exact (congrArg marks (take_append_stop front)).trans (marks_append_stop front).symm
    · have whole : marks (front ++ "<p>".toList) = marks front :=
        marks_append_mute (by decide) (by decide) front
      rw [take_append_start, marks_dropLast, keptMarks, whole]
  · next noTag =>
    rw [Bool.or_eq_true, List.isSuffixOf_iff_suffix, List.isSuffixOf_iff_suffix, not_or] at noTag
    exact (notBare noTag.2).symm

/-- A body that ends in no start tag loses no markers with the tag at its end. -/
theorem sameMarks_dropEndTag {body : Text} (closed : ¬ "<p>".toList <:+ body) :
    SameMarks (Quote.dropEndTag body) body := by
  unfold Quote.dropEndTag
  split
  · next tag =>
    rw [Bool.or_eq_true, List.isSuffixOf_iff_suffix, List.isSuffixOf_iff_suffix] at tag
    obtain ⟨front, rfl⟩ := tag.resolve_right closed
    have trimmed : SameMarks (Text.trim front) (front ++ stop) := by
      refine (alike_trim front).toSameMarks.trans ⟨(marks_append_stop front).symm, ?_⟩
      have kept := beforeParagraphEnd_append_stop front []
      rw [List.append_nil] at kept
      rw [kept]
    exact (congrArg (fun rest => SameMarks (Text.trim rest) (front ++ stop))
      (take_append_stop front)).mpr trimmed
  · exact ⟨rfl, rfl⟩

theorem open_closingMark {mark : Char} (isMark : Quote.isClosingMark mark = true) :
    '>' ∉ [mark] := by
  intro member
  rw [← List.mem_singleton.mp member] at isMark
  exact absurd isMark (by decide)

theorem sameMarks_dropClosingMark (body : Text) : SameMarks (Quote.dropClosingMark body) body := by
  unfold Quote.dropClosingMark
  split
  · next closing =>
    obtain ⟨last, inLast, isMark⟩ := (Option.any_eq_true _ _).mp closing
    obtain ⟨front, rfl⟩ := List.getLast?_eq_some_iff.mp inLast
    have opened := sameMarks_append_of_open front (open_closingMark isMark)
    rw [List.dropLast_concat]
    exact (alike_trim front).toSameMarks.trans ⟨opened.all.symm, opened.kept.symm⟩
  · exact ⟨rfl, rfl⟩

/-! ### The whole body -/

/-- Stripping the front of a body takes nothing but blanks off its end. -/
theorem dropOpeningMark_dropStartTag_spells (body : Text) :
    ∃ front blanks, (∀ c ∈ blanks, isBlank c = true) ∧
      body = front ++ Quote.dropOpeningMark (Quote.dropStartTag body) ++ blanks := by
  have none : ∀ c ∈ ([] : Text), isBlank c = true := fun c member => by cases member
  have tag : ∃ front blanks, (∀ c ∈ blanks, isBlank c = true) ∧
      body = front ++ Quote.dropStartTag body ++ blanks := by
    unfold Quote.dropStartTag
    split
    · next rest found =>
      obtain ⟨front, blanks, blank, whole⟩ := Text.trim_spells rest
      refine ⟨"<p>".toList ++ front, blanks, blank, (Text.after?_spells found).trans ?_⟩
      rw [List.append_assoc, List.append_assoc, ← List.append_assoc front, ← whole]
    · exact ⟨[], [], none, (List.append_nil body).symm⟩
  obtain ⟨front, blanks, blank, whole⟩ := tag
  revert whole
  generalize Quote.dropStartTag body = rest
  intro whole
  unfold Quote.dropOpeningMark
  split
  · next head rest =>
    split
    · obtain ⟨within, more, blankMore, inner⟩ := Text.trim_spells rest
      refine ⟨front ++ [head] ++ within, more ++ blanks,
        List.forall_mem_append.mpr ⟨blankMore, blank⟩, ?_⟩
      rw [whole]
      conv_lhs => rw [inner]
      simp only [List.append_assoc, List.cons_append, List.nil_append]
    · exact ⟨front, blanks, blank, whole⟩
  · exact ⟨front, blanks, blank, whole⟩

/-- What ends visibly and stands at the end of a body behind its stripped front stood there
before, up to blanks. -/
theorem suffix_trimEnd_of_stripped {body tail : Text}
    (visible : ∃ last ∈ tail.getLast?, isBlank last = false)
    (ends : tail <:+ Quote.dropOpeningMark (Quote.dropStartTag body)) :
    tail <:+ Text.trimEnd body := by
  obtain ⟨before, isEnd⟩ := ends
  obtain ⟨last, inLast, kept⟩ := visible
  obtain ⟨front, blanks, blank, whole⟩ := dropOpeningMark_dropStartTag_spells body
  rw [← isEnd, ← List.append_assoc] at whole
  have same : (front ++ before ++ tail).getLast? = some last := by
    rw [List.getLast?_append, Option.mem_def.mp inLast, Option.some_or]
  rw [whole, Text.trimEnd_append_blanks _ blank, Text.trimEnd, Text.dropEndWhile_of_getLast? same kept]
  exact List.suffix_append _ _

theorem stripMarks_inside (body : Text) : Quote.stripMarks body <:+: body := by
  obtain ⟨front, blanks, -, whole⟩ := dropOpeningMark_dropStartTag_spells body
  have inner : Quote.dropOpeningMark (Quote.dropStartTag body) <:+: body :=
    ⟨front, blanks, whole.symm⟩
  have endTag (text : Text) : Quote.dropEndTag text <:+: text := by
    unfold Quote.dropEndTag
    split
    · exact (Text.trim_inside _).trans (List.take_prefix _ _).isInfix
    · exact List.infix_refl text
  have closing (text : Text) : Quote.dropClosingMark text <:+: text := by
    unfold Quote.dropClosingMark
    split
    · exact (Text.trim_inside _).trans (List.dropLast_prefix _).isInfix
    · exact List.infix_refl text
  exact (closing _).trans ((endTag _).trans inner)

/-- A trimmed body keeps the markers that dropping the tag at its end does not break. -/
theorem marks_stripMarks {body : Text} (trimmed : Text.trimEnd body = body) :
    marks (Quote.stripMarks body) = keptMarks body := by
  have front := (alike_dropOpeningMark _).trans (alike_dropStartTag body)
  rw [Quote.stripMarks, (sameMarks_dropClosingMark _).all,
    marks_dropEndTag (trimEnd_dropOpeningMark_dropStartTag trimmed), keptMarks_of_alike front]

/-- A body that ends in no start tag keeps all its markers. -/
theorem sameMarks_stripMarks {body : Text} (closed : ¬ "<p>".toList <:+ Text.trimEnd body) :
    SameMarks (Quote.stripMarks body) body := by
  have front := (alike_dropOpeningMark _).trans (alike_dropStartTag body)
  have inner : ¬ "<p>".toList <:+ Quote.dropOpeningMark (Quote.dropStartTag body) :=
    fun tag => closed (suffix_trimEnd_of_stripped ⟨'>', rfl, by decide⟩ tag)
  exact (sameMarks_dropClosingMark _).trans
    ((sameMarks_dropEndTag inner).trans front.toSameMarks)

end Group

end BookMarkup
