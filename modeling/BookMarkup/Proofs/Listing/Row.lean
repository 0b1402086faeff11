/-
This file proves that a highlighted listing shows its source line by line. Splitting the
spans of a class cuts those fragments, one for each line, and keeps the others. Where no
span crosses a line end it changes nothing, and cutting the markup into lines cuts between
fragments. So every row holds whole fragments: its spans are opened and closed in it, and
without its tags it shows one line of the source. No row starts with an end tag, so there
is none to drop.
-/

import BookMarkup.Hook.Call
import BookMarkup.Proofs.Listing.Fragment
import BookMarkup.Proofs.Listing.LineEnd
import BookMarkup.Proofs.Text.Occurrence
import BookMarkup.Proofs.Text.Substitute
import BookMarkup.Proofs.Text.Trim

namespace BookMarkup

namespace Listing

/-- The markup of fragments. -/
def markupOf (fragments : List Fragment) : Text :=
  fragments.flatMap Fragment.html

/-- The text that fragments show. -/
def textOf (fragments : List Fragment) : Text :=
  fragments.flatMap Fragment.text

theorem markupOf_append (front rest : List Fragment) :
    markupOf (front ++ rest) = markupOf front ++ markupOf rest :=
  List.flatMap_append

theorem textOf_append (front rest : List Fragment) :
    textOf (front ++ rest) = textOf front ++ textOf rest :=
  List.flatMap_append

theorem markupOf_char (c : Char) (others : List Fragment) :
    markupOf (.char c :: others) = c :: markupOf others := rfl

theorem markupOf_span (className text : Text) (others : List Fragment) :
    markupOf (.span className text :: others) =
      spanStart className ++ (text ++ (spanEnd ++ markupOf others)) := by
  show (spanStart className ++ text ++ spanEnd) ++ markupOf others = _
  simp only [List.append_assoc]

/-! ### Lines of fragments -/

/-- A span is written with the characters of its class and of its text and with those of tags. -/
theorem mem_html_span {className text : Text} {c : Char}
    (member : c ∈ (Fragment.span className text).html) :
    c ∈ "<span class=\"></".toList ∨ c ∈ className ∨ c ∈ text := by
  have tag {part : Text} (among : part ⊆ "<span class=\"></".toList) (inPart : c ∈ part) :
      c ∈ "<span class=\"></".toList ∨ c ∈ className ∨ c ∈ text := Or.inl (among inPart)
  rcases List.mem_append.mp member with member | inEnd
  · rcases List.mem_append.mp member with member | inText
    · rcases List.mem_append.mp member with member | inStop
      · rcases List.mem_append.mp member with inStart | inClass
        · exact tag (by decide) inStart
        · exact Or.inr (Or.inl inClass)
      · exact tag (by decide) inStop
    · exact Or.inr (Or.inr inText)
  · exact tag (by decide) inEnd

/-- A fragment other than a line end holds no line end. -/
theorem lineEnd_not_mem_html {fragment : Fragment} (flat : fragment.IsFlat)
    (other : fragment.isLineEnd = false) : '\n' ∉ fragment.html := by
  intro member
  cases fragment with
  | char c =>
    rw [← List.mem_singleton.mp member] at other
    cases other
  | span className text =>
    rcases mem_html_span member with inTag | inClass | inText
    · exact absurd inTag (by decide)
    · exact flat.1.2 inClass
    · exact flat.2.2 inText

theorem return_not_mem_html {fragment : Fragment} (sound : fragment.IsSound) :
    '\r' ∉ fragment.html := by
  intro member
  cases fragment with
  | char c =>
    rw [← List.mem_singleton.mp member] at sound
    rcases sound with lineEnd | lineChar
    · exact absurd lineEnd (by decide)
    · exact lineChar.2.2 rfl
  | span className text =>
    rcases mem_html_span member with inTag | inClass | inText
    · exact absurd inTag (by decide)
    · exact (plain_of_isClassChar (sound.1 _ inClass)).1.2.2 rfl
    · exact (sound.2 _ inText).2.2 rfl

theorem return_not_mem_markupOf {fragments : List Fragment}
    (sound : ∀ fragment ∈ fragments, fragment.IsSound) : '\r' ∉ markupOf fragments := by
  intro member
  obtain ⟨fragment, inFragments, inHtml⟩ := List.mem_flatMap.mp member
  exact return_not_mem_html (sound fragment inFragments) inHtml

/-- The fragments of each line. -/
def rowsOf (fragments : List Fragment) : List (List Fragment) :=
  fragments.splitOnP Fragment.isLineEnd

/-- The lines of markup are the markup of the rows. -/
theorem lines_markupOf {fragments : List Fragment}
    (flat : ∀ fragment ∈ fragments, fragment.IsFlat) :
    Text.lines (markupOf fragments) = (rowsOf fragments).map markupOf := by
  refine Text.lines_flatMap Fragment.isLineEnd Fragment.html fragments ?_ ?_
  · intro fragment _ lineEnd
    rw [beq_iff_eq.mp lineEnd]
    rfl
  · intro fragment member other
    exact lineEnd_not_mem_html (flat fragment member) other

theorem sourceLines_markupOf {fragments : List Fragment}
    (sound : ∀ fragment ∈ fragments, fragment.IsSound) :
    sourceLines (markupOf fragments) = (rowsOf fragments).map markupOf := by
  rw [sourceLines_eq_lines (return_not_mem_markupOf sound)]
  exact lines_markupOf fun fragment member => (sound fragment member).isFlat

/-- The lines of shown text are the text of the rows. -/
theorem lines_textOf {fragments : List Fragment}
    (flat : ∀ fragment ∈ fragments, fragment.IsFlat) :
    Text.lines (textOf fragments) = (rowsOf fragments).map textOf := by
  refine Text.lines_flatMap Fragment.isLineEnd Fragment.text fragments ?_ ?_
  · intro fragment _ lineEnd
    rw [beq_iff_eq.mp lineEnd]
    rfl
  · intro fragment member other inText
    cases fragment with
    | char c => exact lineEnd_not_mem_html (flat _ member) other inText
    | span className text => exact (flat _ member).2.2 inText

/-- A row holds fragments of the whole other than line ends. -/
theorem isSound_of_mem_rowsOf {fragments row : List Fragment}
    (sound : ∀ fragment ∈ fragments, fragment.IsSound) (member : row ∈ rowsOf fragments) :
    ∀ fragment ∈ row, fragment.IsSound :=
  fun fragment inRow => sound fragment (Text.mem_of_mem_splitOnP member fragment inRow).1

/-! ### Spans that cross lines -/

theorem spanPattern_of_not_start {className text : Text} (other : ¬ spanStart className <+: text) :
    spanPattern className text = 0 := by
  have absent : (spanStart className).isPrefixOf text = false := by
    rw [Bool.eq_false_iff, ne_eq, List.isPrefixOf_iff_prefix]
    exact other
  rw [spanPattern, Text.after?, absent]
  rfl

theorem spanPattern_cons_of_ne (className : Text) {head : Char} (rest : Text)
    (other : head ≠ '<') : spanPattern className (head :: rest) = 0 :=
  spanPattern_of_not_start fun starts => other (List.cons_prefix_cons.mp starts).1.symm

theorem head?_spanEnd : spanEnd.head? = some '<' := by decide

theorem spanPattern_spanEnd (className rest : Text) :
    spanPattern className (spanEnd ++ rest) = 0 := by
  refine spanPattern_of_not_start fun starts => ?_
  have second := (List.cons_prefix_cons.mp (List.cons_prefix_cons.mp starts).2).1
  exact absurd second (by decide)

/-- The first end tag behind text without tags stands behind the text. -/
theorem breakOn_spanEnd {text : Text} (plain : '<' ∉ text) (rest : Text) :
    Text.breakOn spanEnd (text ++ (spanEnd ++ rest)) = some (text, rest) := by
  induction text with
  | nil => rfl
  | cons head tail inductionHypothesis =>
    simp only [List.mem_cons, not_or] at plain
    have absent : Text.after? spanEnd (head :: (tail ++ (spanEnd ++ rest))) = none := by
      rw [Text.after?, Text.isPrefixOf_of_ne head?_spanEnd plain.1]
      rfl
    rw [List.cons_append, Text.breakOn, absent, inductionHypothesis plain.2]
    rfl

theorem spanPattern_span (className : Text) {text : Text} (plain : '<' ∉ text) (rest : Text) :
    spanPattern className (spanStart className ++ (text ++ (spanEnd ++ rest))) =
      (spanStart className ++ text ++ spanEnd).length := by
  have starts : (spanStart className).isPrefixOf
      (spanStart className ++ (text ++ (spanEnd ++ rest))) = true :=
    List.isPrefixOf_iff_prefix.mpr (List.prefix_append _ _)
  rw [spanPattern, Text.after?, if_pos starts, List.drop_left]
  simp only [breakOn_spanEnd plain, List.length_append]

/-- The class of a start tag can be read off any text that starts with it. -/
theorem className_eq_of_starts {stop : Char} {first second front rest : Text}
    (inFirst : stop ∉ first) (inSecond : stop ∉ second)
    (starts : first ++ stop :: front <+: second ++ stop :: rest) : first = second := by
  induction first generalizing second with
  | nil =>
    cases second with
    | nil => rfl
    | cons head tail =>
      exact absurd (List.mem_cons.mpr (Or.inl (List.cons_prefix_cons.mp starts).1)) inSecond
  | cons head tail inductionHypothesis =>
    cases second with
    | nil =>
      have same := (List.cons_prefix_cons.mp starts).1
      exact absurd (List.mem_cons.mpr (Or.inl same.symm)) inFirst
    | cons other others =>
      obtain ⟨rfl, later⟩ := List.cons_prefix_cons.mp starts
      rw [inductionHypothesis (fun member => inFirst (List.mem_cons_of_mem _ member))
        (fun member => inSecond (List.mem_cons_of_mem _ member)) later]

theorem eq_of_spanStart_starts {first second rest : Text} (inFirst : '"' ∉ first)
    (inSecond : '"' ∉ second) (starts : spanStart first <+: spanStart second ++ rest) :
    first = second := by
  unfold spanStart at starts
  simp only [List.append_assoc] at starts
  have classes := (List.prefix_append_right_inj _).mp starts
  exact className_eq_of_starts inFirst inSecond classes

/-- Behind its first character a start tag holds no further start of a tag. -/
theorem ne_of_mem_tail_spanStart {className : Text} (noTag : '<' ∉ className) :
    ∀ c ∈ (spanStart className).tail, c ≠ '<' := by
  intro c member
  have inParts : c ∈ "span class=\"".toList ++ className ++ "\">".toList := member
  rcases List.mem_append.mp inParts with inFront | inStop
  · rcases List.mem_append.mp inFront with inStart | inName
    · rintro rfl
      exact absurd inStart (by decide)
    · rintro rfl
      exact noTag inName
  · rintro rfl
    exact absurd inStop (by decide)

/-- Spans of a class, one for each line, with line ends between them. -/
def lineSpans (className : Text) (lines : List Text) : List Fragment :=
  joinFragments (fun line => [.span className line]) lines

/-- A span of one of some classes becomes a span for each line of its text. -/
def Fragment.cut (classes : List Text) : Fragment → List Fragment
  | char c => [char c]
  | span className text =>
    if className ∈ classes then lineSpans className (sourceLines text) else [span className text]

theorem mem_lineSpans {className : Text} {lines : List Text} {fragment : Fragment}
    (member : fragment ∈ lineSpans className lines) :
    fragment = .char '\n' ∨ ∃ line ∈ lines, fragment = .span className line :=
  (mem_joinFragments member).imp_right fun ⟨line, inLines, inLine⟩ =>
    ⟨line, inLines, List.mem_singleton.mp inLine⟩

theorem markupOf_lineSpans (className : Text) {lines : List Text} (nonempty : lines ≠ []) :
    markupOf (lineSpans className lines) = spanStart className ++
      (Text.join (spanEnd ++ ['\n'] ++ spanStart className) lines ++ spanEnd) := by
  have each : (fun line => [Fragment.span className line].flatMap Fragment.html) =
      fun line => spanStart className ++ line ++ spanEnd := funext fun _ => List.append_nil _
  unfold markupOf lineSpans
  rw [flatMap_joinFragments rfl, each, Text.join_map_wrapped _ _ _ nonempty]

theorem textOf_lineSpans (className : Text) (lines : List Text) :
    textOf (lineSpans className lines) = Text.join ['\n'] lines := by
  have each : (fun line => [Fragment.span className line].flatMap Fragment.text) =
      fun line => line := funext List.append_nil
  unfold textOf lineSpans
  rw [flatMap_joinFragments rfl, each, List.map_id']

theorem lineEnd_not_mem_spanStart {className : Text} (oneLine : '\n' ∉ className) :
    '\n' ∉ spanStart className := by
  unfold spanStart
  simp only [List.mem_append, not_or]
  exact ⟨⟨by decide, oneLine⟩, by decide⟩

/-- Closing and opening a span at its line ends gives a span for each line. -/
theorem replaceLineEnds_span {className : Text} (oneLine : '\n' ∉ className) (text : Text) :
    replaceLineEnds (spanEnd ++ ['\n'] ++ spanStart className)
        (spanStart className ++ text ++ spanEnd) =
      markupOf (lineSpans className (sourceLines text)) := by
  have inStart := lineEnd_not_mem_spanStart oneLine
  have inEnd : '\n' ∉ spanEnd := by decide
  have startApart : (spanStart className).getLast? = some '\r' →
      (text ++ spanEnd).head? ≠ some '\n' := by
    have last : (spanStart className).getLast? = some '>' := by
      unfold spanStart
      rw [List.getLast?_append]
      rfl
    rw [last]
    exact fun equal => absurd equal (by decide)
  have endApart : text.getLast? = some '\r' → spanEnd.head? ≠ some '\n' := fun _ => by decide
  rw [List.append_assoc (spanStart className), replaceLineEnds_append startApart,
    replaceLineEnds_eq_self _ inStart, replaceLineEnds_append endApart,
    replaceLineEnds_eq_self _ inEnd, replaceLineEnds_eq_join,
    markupOf_lineSpans className (sourceLines_ne_nil text)]

section

variable {className name text : Text} {others : List Fragment}

theorem splitSpansOf_char {c : Char} (other : c ≠ '<') :
    splitSpansOf (markupOf (.char c :: others)) className =
      c :: splitSpansOf (markupOf others) className :=
  Text.substitute_cons_of_zero (spanPattern_cons_of_ne className _ other)

/-- A span of the class is cut into a span for each line. -/
theorem splitSpansOf_span_self (oneLine : '\n' ∉ className) (noTag : '<' ∉ text) :
    splitSpansOf (markupOf (.span className text :: others)) className =
      markupOf (lineSpans className (sourceLines text)) ++
        splitSpansOf (markupOf others) className := by
  have nonempty : spanStart className ++ text ++ spanEnd ≠ [] := by
    intro empty
    cases empty
  have taken := spanPattern_span className noTag (markupOf others)
  rw [markupOf_span]
  rw [← List.append_assoc, ← List.append_assoc] at taken ⊢
  unfold splitSpansOf
  rw [Text.substitute_append_of_match nonempty (markupOf others) taken,
    replaceLineEnds_span oneLine]

/-- A front in which at most its first character starts a tag is kept if no span starts there. -/
theorem splitSpansOf_append_of_no_start {front rest : Text} (oneTag : ∀ c ∈ front.tail, c ≠ '<')
    (noStart : spanPattern className (front ++ rest) = 0) :
    splitSpansOf (front ++ rest) className = front ++ splitSpansOf rest className := by
  cases front with
  | nil => rfl
  | cons head tail =>
    have quiet (head : Char) (rest : Text) (other : head ≠ '<') :
        spanPattern className (head :: rest) = 0 := spanPattern_cons_of_ne className rest other
    rw [List.tail_cons] at oneTag
    rw [List.cons_append] at noStart ⊢
    unfold splitSpansOf
    rw [Text.substitute_cons_of_zero noStart, Text.substitute_append_of_quiet quiet oneTag,
      List.cons_append]

theorem splitSpansOf_span_other (noQuote : '"' ∉ className) (other : className ≠ name)
    (proper : (Fragment.span name text).IsProper) :
    splitSpansOf (markupOf (.span name text :: others)) className =
      (Fragment.span name text).html ++ splitSpansOf (markupOf others) className := by
  obtain ⟨⟨noQuoteInName, noTagInName, -⟩, noTag⟩ := proper
  have noStart : spanPattern className
      (spanStart name ++ (text ++ (spanEnd ++ markupOf others))) = 0 :=
    spanPattern_of_not_start fun starts =>
      other (eq_of_spanStart_starts noQuote noQuoteInName starts)
  have inFront : ∀ c ∈ (spanStart name ++ text).tail, c ≠ '<' := by
    intro c member
    rcases List.mem_append.mp (member : c ∈ (spanStart name).tail ++ text) with inTag | inText
    · exact ne_of_mem_tail_spanStart noTagInName c inTag
    · exact fun equal => noTag (equal ▸ inText)
  have inEnd : ∀ c ∈ spanEnd.tail, c ≠ '<' := by decide
  rw [markupOf_span]
  rw [← List.append_assoc] at noStart ⊢
  rw [splitSpansOf_append_of_no_start inFront noStart,
    splitSpansOf_append_of_no_start inEnd (spanPattern_spanEnd className _), ← List.append_assoc]
  rfl

end

/-- Splitting the spans of a class cuts those fragments and keeps the others. -/
theorem splitSpansOf_markupOf {className : Text} (noQuote : '"' ∉ className)
    (oneLine : '\n' ∉ className) {fragments : List Fragment}
    (proper : ∀ fragment ∈ fragments, fragment.IsProper) :
    splitSpansOf (markupOf fragments) className =
      markupOf (fragments.flatMap (Fragment.cut [className])) := by
  induction fragments with
  | nil => rfl
  | cons fragment others inductionHypothesis =>
    obtain ⟨here, properLater⟩ := List.forall_mem_cons.mp proper
    rw [List.flatMap_cons, markupOf_append, ← inductionHypothesis properLater]
    cases fragment with
    | char c => exact splitSpansOf_char here
    | span name text =>
      by_cases same : className = name
      · subst same
        have cut : (Fragment.span className text).cut [className] =
            lineSpans className (sourceLines text) := if_pos List.mem_cons_self
        rw [splitSpansOf_span_self oneLine here.2, cut]
      · have kept : (Fragment.span name text).cut [className] = [.span name text] :=
          if_neg fun member => same (List.mem_singleton.mp member).symm
        have html : markupOf [.span name text] = (Fragment.span name text).html :=
          List.append_nil _
        rw [splitSpansOf_span_other noQuote same here, kept, html]

/-- Fragments whose spans stay on one line are not cut. -/
theorem flatMap_cut_eq_self (classes : List Text) {fragments : List Fragment}
    (oneLine : ∀ name text, .span name text ∈ fragments → '\n' ∉ text) :
    fragments.flatMap (Fragment.cut classes) = fragments := by
  have each : ∀ fragment ∈ fragments, fragment.cut classes = [fragment] := by
    intro fragment member
    cases fragment with
    | char c => rfl
    | span name text =>
      rw [Fragment.cut, sourceLines_of_oneLine (oneLine name text member)]
      exact ite_self _
  rw [List.flatMap_congr each, List.flatMap_singleton']

theorem lineEnd_not_mem_of_mem_lineSpans {className text name piece : Text}
    (member : .span name piece ∈ lineSpans className (sourceLines text)) : '\n' ∉ piece := by
  rcases mem_lineSpans member with lineEnd | ⟨line, inLines, equal⟩
  · cases lineEnd
  · cases equal
    exact lineEnd_not_mem_of_mem_sourceLines inLines

/-- Cutting the spans of one class and then those of others is cutting them all. -/
theorem flatMap_cut_cut (className : Text) (classes : List Text) (fragments : List Fragment) :
    (fragments.flatMap (Fragment.cut [className])).flatMap (Fragment.cut classes) =
      fragments.flatMap (Fragment.cut (className :: classes)) := by
  rw [List.flatMap_assoc]
  refine List.flatMap_congr fun fragment _ => ?_
  cases fragment with
  | char c => rfl
  | span name text =>
    by_cases same : name = className
    · have first : (Fragment.span name text).cut [className] = lineSpans name (sourceLines text) :=
        if_pos (List.mem_singleton.mpr same)
      have all : (Fragment.span name text).cut (className :: classes) =
          lineSpans name (sourceLines text) := if_pos (List.mem_cons.mpr (Or.inl same))
      rw [first, all, flatMap_cut_eq_self]
      exact fun name piece => lineEnd_not_mem_of_mem_lineSpans
    · have first : (Fragment.span name text).cut [className] = [.span name text] :=
        if_neg fun member => same (List.mem_singleton.mp member)
      rw [first, List.flatMap_singleton]
      simp only [Fragment.cut, List.mem_cons, same, false_or]

theorem isProper_of_mem_cut {classes : List Text} {fragment part : Fragment}
    (proper : fragment.IsProper) (member : part ∈ fragment.cut classes) : part.IsProper := by
  cases fragment with
  | char c =>
    rw [List.mem_singleton.mp member]
    exact proper
  | span name text =>
    rw [Fragment.cut] at member
    split at member
    · rcases mem_lineSpans member with rfl | ⟨line, inLines, rfl⟩
      · show '\n' ≠ '<'
        decide
      · exact ⟨proper.1, fun inLine => proper.2 (mem_of_mem_sourceLines inLines inLine)⟩
    · rw [List.mem_singleton.mp member]
      exact proper

/-- Splitting the spans that may cross lines cuts them and keeps the other fragments. -/
theorem splitCrossingSpans_markupOf {fragments : List Fragment}
    (proper : ∀ fragment ∈ fragments, fragment.IsProper) :
    splitCrossingSpans (markupOf fragments) =
      markupOf (fragments.flatMap (Fragment.cut crossingClasses)) := by
  have comment := @splitSpansOf_markupOf "hljs-comment".toList (by decide) (by decide) _ proper
  have css := @splitSpansOf_markupOf "css".toList (by decide) (by decide)
    (fragments.flatMap (Fragment.cut ["hljs-comment".toList])) fun part member => by
      obtain ⟨fragment, inFragments, inCut⟩ := List.mem_flatMap.mp member
      exact isProper_of_mem_cut (proper fragment inFragments) inCut
  show splitSpansOf (splitSpansOf (markupOf fragments) "hljs-comment".toList) "css".toList = _
  rw [comment, css, flatMap_cut_cut]
  rfl

/-! ### Rows -/

/-- A row does not open with an end tag. -/
theorem not_spanEnd_prefix_trim {fragments : List Fragment}
    (proper : ∀ fragment ∈ fragments, fragment.IsProper) :
    ¬ spanEnd <+: Text.trim (markupOf fragments) := by
  intro starts
  have opens : spanEnd <+: (markupOf fragments).dropWhile isBlank :=
    starts.trans (Text.dropEndWhile_starts isBlank _)
  clear starts
  induction fragments with
  | nil => exact absurd opens (by decide)
  | cons fragment others inductionHypothesis =>
    cases fragment with
    | char c =>
      rw [markupOf_char, List.dropWhile_cons] at opens
      split at opens
      · exact inductionHypothesis
          (fun fragment member => proper fragment (List.mem_cons_of_mem _ member)) opens
      · have other : c ≠ '<' := proper _ List.mem_cons_self
        exact other (List.cons_prefix_cons.mp opens).1.symm
    | span name text =>
      have visible : (markupOf (.span name text :: others)).dropWhile isBlank =
          markupOf (.span name text :: others) := by
        have notBlank : isBlank '<' = false := by decide
        rw [markupOf_span]
        exact List.dropWhile_cons_of_neg (Bool.eq_false_iff.mp notBlank)
      rw [visible, markupOf_span] at opens
      have second := (List.cons_prefix_cons.mp (List.cons_prefix_cons.mp opens).2).1
      exact absurd second (by decide)

theorem dropStrayEnd_markupOf {fragments : List Fragment}
    (proper : ∀ fragment ∈ fragments, fragment.IsProper) :
    dropStrayEnd (markupOf fragments) = markupOf fragments := by
  have noStray : spanEnd.isPrefixOf (Text.trim (markupOf fragments)) = false := by
    rw [Bool.eq_false_iff, ne_eq, List.isPrefixOf_iff_prefix]
    exact not_spanEnd_prefix_trim proper
  rw [dropStrayEnd, noStray]
  rfl

/-- The contents of the rows are the markup of the rows' fragments, as no span crosses lines. -/
theorem rowContents_markupOf {fragments : List Fragment}
    (sound : ∀ fragment ∈ fragments, fragment.IsSound) :
    rowContents (markupOf fragments) = (rowsOf fragments).map markupOf := by
  have proper : ∀ fragment ∈ fragments, fragment.IsProper :=
    fun fragment member => (sound fragment member).isProper
  have uncut : fragments.flatMap (Fragment.cut crossingClasses) = fragments :=
    flatMap_cut_eq_self _ fun name text member => (sound _ member).isFlat.2.2
  rw [rowContents, splitCrossingSpans_markupOf proper, uncut, sourceLines_markupOf sound,
    List.map_map]
  refine List.map_congr_left fun row member => ?_
  exact dropStrayEnd_markupOf fun fragment inRow =>
    (isSound_of_mem_rowsOf sound member fragment inRow).isProper

/-! ### Rows as they are written -/

/-- A row as it is to be written: a cell that holds its number as an attribute, counted from one,
and a cell with its content. -/
def numberedRow (index : Nat) (content : Text) : Text :=
  "<tr><td class=\"line-number\" data-pseudo-content=\"".toList ++ Nat.toDigits 10 (index + 1) ++
    "\"></td><td><pre>".toList ++ content ++ "</pre></td></tr>\n".toList

/-- The rows of a table as they are to be written. -/
def numberedRows (contents : List Text) : Text :=
  (contents.mapIdx numberedRow).flatten

theorem renderRow_eq_numberedRow (index : Nat) (content : Text) :
    renderRow (index + 1) content = numberedRow index content := rfl

theorem renderRowsFrom_eq_flatten (first : Nat) (contents : List Text) :
    renderRowsFrom first contents =
      (contents.mapIdx fun index content => renderRow (index + first) content).flatten := by
  induction contents generalizing first with
  | nil => rfl
  | cons content others inductionHypothesis =>
    rw [renderRowsFrom, inductionHypothesis, List.mapIdx_cons, List.flatten_cons]
    simp only [Nat.zero_add, Nat.add_assoc, Nat.add_comm 1]

/-- Rows from one on are written as they should be. -/
theorem renderRowsFrom_one (contents : List Text) :
    renderRowsFrom 1 contents = numberedRows contents := by
  rw [renderRowsFrom_eq_flatten]
  simp only [renderRow_eq_numberedRow]
  rfl

end Listing

end BookMarkup
