/-
This file proves that formatting tokens keeps their text and closes every line. Formatted
tokens are fragments: characters outside of spans and spans that hold text alone. A span
never holds a line end, so cutting the markup into lines cuts between fragments, and a tag
is removed whole wherever it stands. Nothing here looks at what the tokens are: they may be
empty, span lines, and repeat or change their category in any way.
-/

import BookMarkup.Listing.Language
import BookMarkup.Proofs.Html.Tag
import BookMarkup.Proofs.Listing.Row

namespace BookMarkup

namespace Listing

/-! ### Markup without its tags -/

theorem stripTags_spanStart {name : Text} (noEnd : '>' ∉ name) (rest : Text) :
    Html.stripTags (spanStart name ++ rest) = Html.stripTags rest := by
  have opening : spanStart name ++ rest =
      '<' :: (("span class=\"".toList ++ name ++ ['"']) ++ '>' :: rest) := by
    unfold spanStart
    simp only [List.append_assoc]
    rfl
  have nonempty : "span class=\"".toList ++ name ++ ['"'] ≠ [] :=
    List.append_ne_nil_of_right_ne_nil _ (List.cons_ne_nil _ _)
  have noEndInside : '>' ∉ "span class=\"".toList ++ name ++ ['"'] := by
    intro member
    rcases List.mem_append.mp member with member | member
    · rcases List.mem_append.mp member with member | member
      · exact absurd member (by decide)
      · exact noEnd member
    · exact absurd member (by decide)
  rw [opening, Html.stripTags_tag nonempty noEndInside]

theorem stripTags_spanEnd (rest : Text) :
    Html.stripTags (spanEnd ++ rest) = Html.stripTags rest := by
  have noEnd : '>' ∉ "/span".toList := by decide
  exact Html.stripTags_tag (by decide) noEnd rest

/-- Markup of fragments without its tags is the text that they show. -/
theorem stripTags_markupOf {fragments : List Fragment}
    (closed : ∀ fragment ∈ fragments, fragment.IsClosed) :
    Html.stripTags (markupOf fragments) = textOf fragments := by
  induction fragments with
  | nil => rfl
  | cons fragment others inductionHypothesis =>
    have later := inductionHypothesis fun fragment member =>
      closed fragment (List.mem_cons_of_mem _ member)
    have here := closed fragment List.mem_cons_self
    cases fragment with
    | char c =>
      have other : c ≠ '<' := here
      have kept : Html.stripTags ([c] ++ markupOf others) =
          [c] ++ Html.stripTags (markupOf others) :=
        Html.stripTags_append_of_plain (by simpa using other) (markupOf others)
      rw [markupOf_char, ← List.singleton_append, kept, later]
      rfl
    | span name text =>
      obtain ⟨noEnd, noTag⟩ := here
      have plain : ∀ c ∈ text, c ≠ '<' := fun c member equal => noTag (equal ▸ member)
      rw [markupOf_span, stripTags_spanStart noEnd, Html.stripTags_append_of_plain plain,
        stripTags_spanEnd, later]
      rfl

/-! ### The fragments of tokens are flat -/

/-- Shown text starts no tag. -/
theorem less_not_mem_shown {style : Style} (noTag : '<' ∉ style.tabReplacement) (text : Text) :
    '<' ∉ shown style text := by
  intro member
  obtain ⟨escaped, inEscape, written⟩ := List.mem_flatMap.mp member
  split at written
  · exact noTag written
  · rw [← List.mem_singleton.mp written] at inEscape
    exact absurd (Html.not_reserved_of_mem_escapeAll inEscape) (by decide)

/-- Whether the tags that a style writes end where they are written to end, on one line. -/
def Style.IsClosed (style : Style) : Prop :=
  ∀ c ∈ style.classStart, c ≠ '>' ∧ c ≠ '\n'

variable {style : Style}

/-- The fragments of a run are characters that start no tag, and flat spans of its category. -/
theorem of_mem_runFragments (noTag : '<' ∉ style.tabReplacement) {run : Run} {fragment : Fragment}
    (member : fragment ∈ runFragments style run) :
    (∃ c, c ≠ '<' ∧ fragment = .char c) ∨ ∃ name piece, run.1 = some name ∧ '<' ∉ piece ∧
      '\n' ∉ piece ∧ fragment = .span (style.classStart ++ name) piece := by
  obtain ⟨category, text⟩ := run
  cases category with
  | none =>
    obtain ⟨c, inShown, rfl⟩ := List.mem_map.mp member
    exact Or.inl ⟨c, fun equal => less_not_mem_shown noTag text (equal ▸ inShown), rfl⟩
  | some name =>
    rcases mem_linesFragments member with rfl | ⟨line, inLines, rfl⟩
    · exact Or.inl ⟨'\n', by decide, rfl⟩
    · have inLine := Text.mem_of_mem_lines inLines
      exact Or.inr ⟨name, line, rfl, fun less => less_not_mem_shown noTag text (inLine _ less).1,
        fun lineEnd => (inLine _ lineEnd).2 rfl, rfl⟩

/-- The fragments of tokens are characters that start no tag, and flat spans of their
categories. -/
theorem of_mem_fragments (noTag : '<' ∉ style.tabReplacement) {tokens : List Token}
    {fragment : Fragment} (member : fragment ∈ fragments style tokens) :
    (∃ c, c ≠ '<' ∧ fragment = .char c) ∨ ∃ kind name piece, category kind = some name ∧
      '<' ∉ piece ∧ '\n' ∉ piece ∧ fragment = .span (style.classStart ++ name) piece := by
  obtain ⟨run, inRuns, inRun⟩ := List.mem_flatMap.mp member
  refine (of_mem_runFragments noTag inRun).imp_right ?_
  rintro ⟨name, piece, named, shape⟩
  obtain ⟨kind, ofKind⟩ := exists_kind_of_mem_runs inRuns
  exact ⟨kind, name, piece, ofKind.symm.trans named, shape⟩

theorem isFlat_of_mem_fragments (noTag : '<' ∉ style.tabReplacement) (closed : style.IsClosed)
    {tokens : List Token} : ∀ fragment ∈ fragments style tokens, fragment.IsFlat := by
  intro fragment member
  rcases of_mem_fragments noTag member with
    ⟨c, other, rfl⟩ | ⟨kind, name, piece, known, noTagInside, oneLine, rfl⟩
  · exact other
  · have plain : ∀ c ∈ style.classStart ++ name, c ≠ '>' ∧ c ≠ '\n' := by
      intro c inClass
      rcases List.mem_append.mp inClass with inStart | inName
      · exact closed c inStart
      · have classChar := plain_of_isClassChar (isClassChar_of_mem_category known c inName)
        exact ⟨classChar.2.1, classChar.1.2.1⟩
    exact ⟨⟨fun greater => (plain _ greater).1 rfl, fun lineEnd => (plain _ lineEnd).2 rfl⟩,
      noTagInside, oneLine⟩

/-! ### Lines of pieces and spans -/

/-- Whether a line of markup is a row of plain pieces and of spans that are opened and closed on
the line and hold a plain piece alone. The class of a span is a category behind what the style
starts its classes with. -/
inductive IsSpanLine (style : Style) : Text → Prop where
  | nil : IsSpanLine style []
  | plain {piece rest : Text} (noTag : '<' ∉ piece) (behind : IsSpanLine style rest) :
    IsSpanLine style (piece ++ rest)
  | span {kind : TokenKind} {name piece rest : Text} (known : category kind = some name)
    (noTag : '<' ∉ piece) (behind : IsSpanLine style rest) :
    IsSpanLine style ("<span class=\"".toList ++ style.classStart ++ name ++ "\">".toList ++
      piece ++ "</span>".toList ++ rest)

/-- A row of the fragments of tokens is such a line. -/
theorem isSpanLine_markupOf (noTag : '<' ∉ style.tabReplacement) {tokens : List Token}
    {row : List Fragment} (among : row ⊆ fragments style tokens) :
    IsSpanLine style (markupOf row) := by
  induction row with
  | nil => exact .nil
  | cons fragment others inductionHypothesis =>
    have later := inductionHypothesis fun fragment member =>
      among (List.mem_cons_of_mem _ member)
    rcases of_mem_fragments noTag (among List.mem_cons_self) with
      ⟨c, other, rfl⟩ | ⟨kind, name, piece, known, noTagInside, -, rfl⟩
    · have noTagInside : '<' ∉ [c] := fun member => other (List.mem_singleton.mp member).symm
      rw [markupOf_char, ← List.singleton_append]
      exact .plain noTagInside later
    · have spelled : markupOf (.span (style.classStart ++ name) piece :: others) =
          "<span class=\"".toList ++ style.classStart ++ name ++ "\">".toList ++ piece ++
            "</span>".toList ++ markupOf others := by
        rw [markupOf_span]
        unfold spanStart spanEnd
        simp only [List.append_assoc]
      rw [spelled]
      exact .span known noTagInside later

/-! ### Formatted tokens -/

/-- Formatting keeps the text of tokens and closes every line. Without its tags, the markup of
tokens is their text, escaped and with the tabs replaced, and every line of the markup is a row of
plain pieces and of spans that are opened and closed on it and not nested. This holds for all
tokens as long as the replacement of tabs starts no tag and the start of classes neither ends a tag
nor a line. -/
theorem format_keeps_text_and_closes_lines (style : Style) (tokens : List Token)
    (noTag : '<' ∉ style.tabReplacement) (closed : ∀ c ∈ style.classStart, c ≠ '>' ∧ c ≠ '\n') :
    Html.stripTags (format style tokens) =
        Text.replaceChar '\t' style.tabReplacement (Html.escapeAll (tokens.flatMap Prod.snd)) ∧
      ∀ line ∈ Text.lines (format style tokens), IsSpanLine style line := by
  have flat := @isFlat_of_mem_fragments style noTag closed tokens
  have written : format style tokens = markupOf (fragments style tokens) :=
    (html_fragments style tokens).symm
  constructor
  · rw [written, stripTags_markupOf fun fragment member => (flat fragment member).isClosed]
    exact text_fragments style tokens
  · intro line member
    rw [written, lines_markupOf flat] at member
    obtain ⟨row, inRows, rfl⟩ := List.mem_map.mp member
    exact isSpanLine_markupOf noTag fun fragment inRow =>
      (Text.mem_of_mem_splitOnP inRows fragment inRow).1

/-- A comment in two tokens over three lines, of which one is empty, with a tab and a reserved
character in it. -/
theorem format_closes_comment_on_each_line :
    let style : Style := { tabReplacement := "  ".toList }
    let tokens : List Token :=
      [(commentKind, "# a\n\n".toList), (commentKind, "\tb < c".toList), (blankKind, ['\n'])]
    '<' ∉ style.tabReplacement ∧ (∀ c ∈ style.classStart, c ≠ '>' ∧ c ≠ '\n') ∧
      format style tokens = "<span class=\"hljs-comment\"># a</span>\n\n".toList ++
        "<span class=\"hljs-comment\">  b &lt; c</span>\n".toList ∧
      Html.stripTags (format style tokens) = "# a\n\n  b &lt; c\n".toList ∧
      ∀ line ∈ Text.lines (format style tokens), IsSpanLine style line := by
  intro style tokens
  have noTag : '<' ∉ style.tabReplacement := by decide
  have closed : ∀ c ∈ style.classStart, c ≠ '>' ∧ c ≠ '\n' := by decide
  obtain ⟨text, lines⟩ := format_keeps_text_and_closes_lines style tokens noTag closed
  exact ⟨noTag, closed, by decide, text, lines⟩

end Listing

end BookMarkup
