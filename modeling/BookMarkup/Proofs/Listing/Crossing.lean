/-
This file proves that the rows of flat markup are balanced, also where a comment or an
embedded style sheet crosses lines. Such a span is cut into one span for each of its lines,
and then no fragment but a line end holds one. So every row holds whole fragments, and the
fragments show what they showed before they were cut, with each line end as a newline. The
last repair finds nothing to do: the first tag of a row is always a start tag.
-/

import BookMarkup.Proofs.Listing.Source

namespace BookMarkup

namespace Listing

/-! ### Flat markup -/

/-- Whether markup is a row of plain pieces and of spans that hold a plain piece alone. A span
crosses lines only if its class is one that may. -/
inductive IsFlatMarkup : Text → Prop where
  | nil : IsFlatMarkup []
  | plain {piece rest : Text} (noTag : '<' ∉ piece) (behind : IsFlatMarkup rest) :
    IsFlatMarkup (piece ++ rest)
  | span {className piece rest : Text}
    (proper : '"' ∉ className ∧ '<' ∉ className ∧ '>' ∉ className) (noTag : '<' ∉ piece)
    (oneLine : className ∈ crossingClasses ∨ '\n' ∉ className ++ piece)
    (behind : IsFlatMarkup rest) :
    IsFlatMarkup ("<span class=\"".toList ++ className ++ "\">".toList ++ piece ++
      "</span>".toList ++ rest)

/-- Whether a fragment is proper and crosses lines only if its class is one that may. -/
def Fragment.IsRegular (fragment : Fragment) : Prop :=
  fragment.IsProper ∧ ∀ className text, fragment = .span className text →
    className ∈ crossingClasses ∨ '\n' ∉ className ++ text

/-- Flat markup is the markup of regular fragments. -/
theorem IsFlatMarkup.exists_fragments {markup : Text} (flat : IsFlatMarkup markup) :
    ∃ fragments, (∀ fragment ∈ fragments, fragment.IsRegular) ∧ markup = markupOf fragments := by
  induction flat with
  | nil => exact ⟨[], fun _ member => absurd member List.not_mem_nil, rfl⟩
  | @plain piece rest noTag behind inductionHypothesis =>
    obtain ⟨fragments, regular, rfl⟩ := inductionHypothesis
    refine ⟨piece.map .char ++ fragments, List.forall_mem_append.mpr ⟨?_, regular⟩, ?_⟩
    · intro fragment member
      obtain ⟨c, inPiece, rfl⟩ := List.mem_map.mp member
      exact ⟨fun equal => noTag (equal ▸ inPiece), fun _ _ equal => nomatch equal⟩
    · have spelled : markupOf (piece.map .char) = piece := by
        rw [markupOf, List.flatMap_map]
        exact List.flatMap_singleton' piece
      rw [markupOf_append, spelled]
  | @span className piece rest proper noTag oneLine behind inductionHypothesis =>
    obtain ⟨fragments, regular, rfl⟩ := inductionHypothesis
    refine ⟨.span className piece :: fragments, List.forall_mem_cons.mpr ⟨⟨⟨proper, noTag⟩, ?_⟩,
      regular⟩, rfl⟩
    rintro _ _ ⟨⟩
    exact oneLine

theorem Fragment.IsRegular.oneLine_class {className text : Text}
    (regular : (Fragment.span className text).IsRegular) : '\n' ∉ className := by
  have oneLine : ∀ className ∈ crossingClasses, '\n' ∉ className := by decide
  rcases regular.2 className text rfl with crossing | inside
  · exact oneLine className crossing
  · exact fun member => inside (List.mem_append_left text member)

/-- What is cut from a regular fragment holds no line end but those between the parts. -/
theorem isFlat_of_mem_cut {fragment part : Fragment} (regular : fragment.IsRegular)
    (member : part ∈ fragment.cut crossingClasses) : part.IsFlat := by
  have proper := isProper_of_mem_cut regular.1 member
  cases fragment with
  | char c =>
    rw [List.mem_singleton.mp member]
    exact regular.1
  | span className text =>
    have oneLine := regular.oneLine_class
    rw [Fragment.cut] at member
    split at member
    · rcases mem_lineSpans member with rfl | ⟨line, inLines, rfl⟩
      · exact proper
      · exact ⟨⟨proper.1.2.2, oneLine⟩, proper.2, lineEnd_not_mem_of_mem_sourceLines inLines⟩
    · next other =>
      rw [List.mem_singleton.mp member] at proper ⊢
      have inside := (regular.2 className text rfl).resolve_left other
      exact ⟨⟨proper.1.2.2, oneLine⟩, proper.2,
        fun inText => inside (List.mem_append_right className inText)⟩

/-! ### Returns among fragments -/

/-- Fragments without the carriage returns in front of line ends. -/
def joinReturns : List Fragment → List Fragment
  | .char '\r' :: .char '\n' :: others => .char '\n' :: joinReturns others
  | fragment :: others => fragment :: joinReturns others
  | [] => []

theorem joinReturns_subset (fragments : List Fragment) : joinReturns fragments ⊆ fragments := by
  fun_induction joinReturns fragments with
  | case1 others inductionHypothesis =>
    exact List.Subset.trans (List.cons_subset_cons _ inductionHypothesis)
      (List.subset_cons_self _ _)
  | case2 fragment others _ inductionHypothesis =>
    exact List.cons_subset_cons _ inductionHypothesis
  | case3 => exact List.Subset.refl _

theorem joinReturns_cons_of_ne {fragment : Fragment} (other : fragment ≠ .char '\r')
    (others : List Fragment) :
    joinReturns (fragment :: others) = fragment :: joinReturns others :=
  joinReturns.eq_2 fragment others fun _ isReturn _ => other isReturn

theorem joinReturns_append_of_not_mem {front : List Fragment} (noReturn : .char '\r' ∉ front)
    (rest : List Fragment) : joinReturns (front ++ rest) = front ++ joinReturns rest := by
  induction front with
  | nil => rfl
  | cons fragment front inductionHypothesis =>
    simp only [List.mem_cons, not_or] at noReturn
    rw [List.cons_append, joinReturns_cons_of_ne (Ne.symm noReturn.1),
      inductionHypothesis noReturn.2, List.cons_append]

/-- Only a line end is written with a newline in front. -/
theorem exists_lineEnd_of_head? {fragments : List Fragment}
    (starts : (markupOf fragments).head? = some '\n') :
    ∃ others, fragments = .char '\n' :: others := by
  cases fragments with
  | nil => cases starts
  | cons fragment others =>
    cases fragment with
    | char c =>
      cases starts
      exact ⟨others, rfl⟩
    | span className text =>
      rw [markupOf_span] at starts
      exact absurd (Option.some.inj starts) (by decide)

theorem getLast?_html_span (className text : Text) :
    (Fragment.span className text).html.getLast? = some '>' := by
  unfold Fragment.html
  rw [List.getLast?_append]
  rfl

/-- Writing each line end of markup as a newline drops the returns in front of line ends. -/
theorem replaceLineEnds_markupOf {fragments : List Fragment}
    (flat : ∀ fragment ∈ fragments, fragment.IsFlat) :
    replaceLineEnds ['\n'] (markupOf fragments) = markupOf (joinReturns fragments) := by
  fun_induction joinReturns fragments with
  | case1 others inductionHypothesis =>
    have later := inductionHypothesis fun fragment member =>
      flat fragment (List.mem_cons_of_mem _ (List.mem_cons_of_mem _ member))
    rw [markupOf_char '\n' (joinReturns others), ← later]
    rfl
  | case2 fragment others apart inductionHypothesis =>
    have later := inductionHypothesis fun fragment member =>
      flat fragment (List.mem_cons_of_mem _ member)
    have here := flat fragment List.mem_cons_self
    have meet : fragment.html.getLast? = some '\r' → (markupOf others).head? ≠ some '\n' := by
      intro last starts
      obtain ⟨behind, rfl⟩ := exists_lineEnd_of_head? starts
      cases fragment with
      | char c =>
        cases last
        exact apart behind rfl rfl
      | span className text =>
        rw [getLast?_html_span] at last
        exact absurd last (by decide)
    have kept : replaceLineEnds ['\n'] fragment.html = fragment.html := by
      cases fragment with
      | char c => exact replaceLineEnds_singleton c
      | span className text => exact replaceLineEnds_eq_self _ (lineEnd_not_mem_html here rfl)
    show replaceLineEnds ['\n'] (fragment.html ++ markupOf others) =
      fragment.html ++ markupOf (joinReturns others)
    rw [replaceLineEnds_append meet, kept, later]
  | case3 => rfl

/-! ### The fragments of the rows -/

/-- The fragments that rows are made of: spans that may cross lines are cut, and carriage returns in
front of line ends are dropped. -/
def settled (fragments : List Fragment) : List Fragment :=
  joinReturns (fragments.flatMap (Fragment.cut crossingClasses))

variable {fragments : List Fragment}

theorem exists_cut_of_mem_settled {part : Fragment} (member : part ∈ settled fragments) :
    ∃ fragment ∈ fragments, part ∈ fragment.cut crossingClasses :=
  List.mem_flatMap.mp (joinReturns_subset _ member)

theorem isFlat_of_mem_settled (regular : ∀ fragment ∈ fragments, fragment.IsRegular) :
    ∀ part ∈ settled fragments, part.IsFlat := by
  intro part member
  obtain ⟨fragment, inFragments, inCut⟩ := exists_cut_of_mem_settled member
  exact isFlat_of_mem_cut (regular fragment inFragments) inCut

theorem isProper_of_mem_settled (regular : ∀ fragment ∈ fragments, fragment.IsRegular) :
    ∀ part ∈ settled fragments, part.IsProper := by
  intro part member
  obtain ⟨fragment, inFragments, inCut⟩ := exists_cut_of_mem_settled member
  exact isProper_of_mem_cut (regular fragment inFragments).1 inCut

/-- The contents of the rows are the markup of the settled fragments between line ends. -/
theorem rowContents_eq_settled (regular : ∀ fragment ∈ fragments, fragment.IsRegular) :
    rowContents (markupOf fragments) = (rowsOf (settled fragments)).map markupOf := by
  have flat : ∀ part ∈ fragments.flatMap (Fragment.cut crossingClasses), part.IsFlat := by
    intro part member
    obtain ⟨fragment, inFragments, inCut⟩ := List.mem_flatMap.mp member
    exact isFlat_of_mem_cut (regular fragment inFragments) inCut
  have lines : sourceLines (markupOf (fragments.flatMap (Fragment.cut crossingClasses))) =
      (rowsOf (settled fragments)).map markupOf := by
    rw [sourceLines_eq_lines_replaceLineEnds, replaceLineEnds_markupOf flat]
    exact lines_markupOf (isFlat_of_mem_settled regular)
  rw [rowContents, splitCrossingSpans_markupOf fun fragment member => (regular fragment member).1,
    lines, List.map_map]
  refine List.map_congr_left fun row member => dropStrayEnd_markupOf fun part inRow => ?_
  exact isProper_of_mem_settled regular part (Text.mem_of_mem_splitOnP member part inRow).1

theorem textOf_cut {className text : Text}
    (regular : (Fragment.span className text).IsRegular) :
    textOf ((Fragment.span className text).cut crossingClasses) =
      replaceLineEnds ['\n'] text := by
  rw [Fragment.cut]
  split
  · rw [textOf_lineSpans, replaceLineEnds_eq_join]
  · next other =>
    have oneLine := (regular.2 className text rfl).resolve_left other
    rw [List.mem_append, not_or] at oneLine
    rw [replaceLineEnds_eq_self _ oneLine.2]
    exact List.append_nil text

theorem return_not_mem_cut_span (classes : List Text) (className text : Text) :
    .char '\r' ∉ (Fragment.span className text).cut classes := by
  intro member
  rw [Fragment.cut] at member
  split at member
  · rcases mem_lineSpans member with lineEnd | ⟨line, -, isSpan⟩
    · exact absurd lineEnd (by decide)
    · cases isSpan
  · cases List.mem_singleton.mp member

/-- The settled fragments show what the fragments show, with each line end as a newline. -/
theorem textOf_settled (regular : ∀ fragment ∈ fragments, fragment.IsRegular)
    (returns : ReturnsEndLines (markupOf fragments)) :
    textOf (settled fragments) = replaceLineEnds ['\n'] (textOf fragments) := by
  unfold settled
  induction fragments with
  | nil => rfl
  | cons fragment others inductionHypothesis =>
    have returnsBehind : ReturnsEndLines (fragment.html ++ markupOf others) := returns
    have later := inductionHypothesis
      (fun fragment member => regular fragment (List.mem_cons_of_mem _ member))
      returnsBehind.of_append
    cases fragment with
    | char c =>
      by_cases isReturn : c = '\r'
      · subst isReturn
        obtain ⟨behind, rfl⟩ := exists_lineEnd_of_head? (returnsBehind.head? rfl)
        exact later
      · have apart : [c].getLast? = some '\r' → (textOf others).head? ≠ some '\n' :=
          fun last => absurd (Option.some.inj last) isReturn
        have other : Fragment.char c ≠ .char '\r' := fun equal => isReturn (Fragment.char.inj equal)
        have kept : replaceLineEnds ['\n'] ([c] ++ textOf others) =
            [c] ++ replaceLineEnds ['\n'] (textOf others) := by
          rw [replaceLineEnds_append apart, replaceLineEnds_singleton]
        show textOf (joinReturns (.char c :: others.flatMap _)) =
          replaceLineEnds ['\n'] ([c] ++ textOf others)
        rw [joinReturns_cons_of_ne other, kept, ← later]
        rfl
    | span className text =>
      have apart : text.getLast? = some '\r' → (textOf others).head? ≠ some '\n' := by
        intro last
        have inMarkup : (spanStart className ++ text).getLast? = some '\r' := by
          rw [List.getLast?_append, last]
          rfl
        have behind : ReturnsEndLines ((spanStart className ++ text) ++
            (spanEnd ++ markupOf others)) := by
          rw [← List.append_assoc]
          exact returns
        exact absurd (Option.some.inj (behind.head? inMarkup)) (by decide)
      have here := textOf_cut (regular _ List.mem_cons_self)
      rw [List.flatMap_cons, joinReturns_append_of_not_mem (return_not_mem_cut_span _ _ _)]
      show textOf (_ ++ _) = replaceLineEnds ['\n'] (text ++ textOf others)
      rw [textOf_append, replaceLineEnds_append apart, ← here, ← later]

/-! ### Rows of flat markup -/

/-- Tags hold no line ends. -/
theorem count_markupOf (regular : ∀ fragment ∈ fragments, fragment.IsRegular) :
    (markupOf fragments).count '\n' = (textOf fragments).count '\n' := by
  induction fragments with
  | nil => rfl
  | cons fragment others inductionHypothesis =>
    have later := inductionHypothesis fun fragment member =>
      regular fragment (List.mem_cons_of_mem _ member)
    have here := regular fragment List.mem_cons_self
    show (fragment.html ++ markupOf others).count '\n' =
      (fragment.text ++ textOf others).count '\n'
    rw [List.count_append, List.count_append, later]
    cases fragment with
    | char c => rfl
    | span className text =>
      have inStart := lineEnd_not_mem_spanStart here.oneLine_class
      have inEnd : '\n' ∉ spanEnd := by decide
      show (spanStart className ++ text ++ spanEnd).count '\n' + _ = text.count '\n' + _
      rw [List.count_append, List.count_append, List.count_eq_zero.mpr inStart,
        List.count_eq_zero.mpr inEnd, Nat.zero_add, Nat.add_zero]

/-- The rows of flat markup are balanced and keep its text. If every carriage return of flat markup
stands in front of a newline, there is one row for each of its lines, numbered from one on. The
content of a row opens and closes every span in it, and without its tags it is the line that the
markup shows there. So the contents without their tags, joined by newlines, are the markup without
its tags and with each line end as a newline. -/
theorem rows_of_flat_markup_balanced {markup : Text} (flat : IsFlatMarkup markup)
    (returns : ReturnsEndLines markup) :
    ∃ contents : List Text,
      renderRows markup = numberedRows contents ∧
      contents.length = markup.count '\n' + 1 ∧
      (∀ content ∈ contents, closesSpans content = true) ∧
      contents.map Html.stripTags =
        Text.lines (Text.replaceAll ['\r', '\n'] ['\n'] (Html.stripTags markup)) ∧
      Text.join ['\n'] (contents.map Html.stripTags) =
        Text.replaceAll ['\r', '\n'] ['\n'] (Html.stripTags markup) := by
  obtain ⟨fragments, regular, rfl⟩ := flat.exists_fragments
  have proper : ∀ row ∈ rowsOf (settled fragments), ∀ part ∈ row, part.IsProper :=
    fun row inRows part inRow =>
      isProper_of_mem_settled regular part (Text.mem_of_mem_splitOnP inRows part inRow).1
  have stripped : Html.stripTags (markupOf fragments) = textOf fragments :=
    stripTags_markupOf fun fragment member => (regular fragment member).1.isClosed
  have shows : ((rowsOf (settled fragments)).map markupOf).map Html.stripTags =
      Text.lines (replaceLineEnds ['\n'] (textOf fragments)) := by
    rw [← textOf_settled regular returns, lines_textOf (isFlat_of_mem_settled regular),
      List.map_map]
    exact List.map_congr_left fun row inRows =>
      stripTags_markupOf fun part inRow => (proper row inRows part inRow).isClosed
  refine ⟨rowContents (markupOf fragments), renderRowsFrom_one _, ?_⟩
  rw [rowContents_eq_settled regular, stripped, replaceAll_returns, shows]
  refine ⟨?_, ?_, rfl, Text.join_parts '\n' _⟩
  · have lengths := congrArg List.length shows
    rw [List.length_map, Text.length_lines, count_replaceLineEnds, ← count_markupOf regular]
      at lengths
    exact lengths
  · intro content member
    obtain ⟨row, inRows, rfl⟩ := List.mem_map.mp member
    exact closesSpans_markupOf (proper row inRows)

/-- A comment with an empty line in it, and a style sheet that starts with a line end. -/
theorem rows_of_comment_and_style_sheet_balanced :
    let comment := "<span class=\"".toList ++ "hljs-comment".toList ++ "\">".toList ++
      "/* a\r\n\r\n b */".toList ++ "</span>".toList
    let sheet := "<span class=\"".toList ++ "css".toList ++ "\">".toList ++ "\np".toList ++
      "</span>".toList
    let markup := "x\r\n".toList ++ (comment ++ (sheet ++ []))
    IsFlatMarkup markup ∧ ReturnsEndLines markup ∧
      renderRows markup = numberedRows
        ["x".toList, "<span class=\"hljs-comment\">/* a</span>".toList,
          "<span class=\"hljs-comment\"></span>".toList,
          "<span class=\"hljs-comment\"> b */</span><span class=\"css\"></span>".toList,
          "<span class=\"css\">p</span>".toList] ∧
      ∃ contents : List Text,
        renderRows markup = numberedRows contents ∧
        contents.length = 5 ∧ (∀ content ∈ contents, closesSpans content = true) ∧
        contents.map Html.stripTags =
          ["x".toList, "/* a".toList, [], " b */".toList, "p".toList] ∧
        Text.join ['\n'] (contents.map Html.stripTags) = "x\n/* a\n\n b */\np".toList := by
  intro comment sheet markup
  have flat : IsFlatMarkup markup :=
    .plain (by decide) (.span (by decide) (by decide) (Or.inl (by decide))
      (.span (by decide) (by decide) (Or.inl (by decide)) .nil))
  have returns : ReturnsEndLines markup := by decide
  have written : renderRows markup = numberedRows (rowContents markup) := renderRowsFrom_one _
  have cut : rowContents markup =
      ["x".toList, "<span class=\"hljs-comment\">/* a</span>".toList,
        "<span class=\"hljs-comment\"></span>".toList,
        "<span class=\"hljs-comment\"> b */</span><span class=\"css\"></span>".toList,
        "<span class=\"css\">p</span>".toList] := by decide +kernel
  obtain ⟨contents, rows, count, closes, shows, joined⟩ := rows_of_flat_markup_balanced flat returns
  have lineEnds : markup.count '\n' + 1 = 5 := by decide
  have text : Text.replaceAll ['\r', '\n'] ['\n'] (Html.stripTags markup) =
      "x\n/* a\n\n b */\np".toList := by decide
  rw [lineEnds] at count
  rw [text] at shows joined
  rw [cut] at written
  exact ⟨flat, returns, written, contents, rows, count, closes, shows, joined⟩

end Listing

end BookMarkup
