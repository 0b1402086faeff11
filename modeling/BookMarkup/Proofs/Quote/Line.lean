/-
This file proves which lines of its paragraphs a quote shows. The citation is looked for
behind the last line that starts with an em dash, in any paragraph, and it ends with its
paragraph. The body is what stands in front of it. So a quote shows the paragraphs up to
the last one with a citation, each line of them, and the paragraphs behind that one leave
no trace. Without a citation it shows them all.
-/

import BookMarkup.Proofs.Group.Quote
import BookMarkup.Proofs.Group.Tree
import BookMarkup.Proofs.Quote.Prose
import Mathlib.Data.List.DropRight

namespace BookMarkup

namespace Quote

open BookMarkup.Group

/-! ### Paragraphs in a row -/

/-- The markup of paragraphs in a row. -/
def paragraphs (texts : List Text) : Text :=
  texts.flatMap fun text => "<p>".toList ++ (text ++ (stop ++ ['\n']))

/-- What stands between the texts of neighbouring paragraphs. -/
def between : Text :=
  "</p>\n<p>".toList

theorem paragraphs_append_start (before : List Text) (text : Text) :
    paragraphs before ++ ("<p>".toList ++ text) =
      "<p>".toList ++ Text.join between (before ++ [text]) := by
  induction before with
  | nil => rfl
  | cons first before inductionHypothesis =>
    have gap : stop ++ ['\n'] ++ "<p>".toList = between := by decide
    have one : paragraphs (first :: before) =
        "<p>".toList ++ (first ++ (stop ++ ['\n'])) ++ paragraphs before := rfl
    rw [one, List.append_assoc, inductionHypothesis, List.cons_append,
      Text.join_cons _ _ (List.concat_ne_nil _ _), ← gap]
    simp only [List.append_assoc]

theorem paragraphs_eq_join {texts : List Text} (nonempty : texts ≠ []) :
    paragraphs texts = "<p>".toList ++ (Text.join between texts ++ (stop ++ ['\n'])) := by
  obtain ⟨before, last, rfl⟩ := (List.eq_nil_or_concat' texts).resolve_left nonempty
  have whole : paragraphs (before ++ [last]) =
      paragraphs before ++ ("<p>".toList ++ last) ++ (stop ++ ['\n']) := by
    simp [paragraphs]
  rw [whole, paragraphs_append_start, List.append_assoc]

theorem isSolid_join {texts : List Text} (nonempty : texts ≠ [])
    (solid : ∀ text ∈ texts, IsSolid text) : IsSolid (Text.join between texts) := by
  induction texts with
  | nil => exact absurd rfl nonempty
  | cons first others inductionHypothesis =>
    obtain ⟨head, later⟩ := List.forall_mem_cons.mp solid
    by_cases more : others = []
    · subst more
      exact head
    · rw [Text.join_cons _ _ more]
      exact head.append (inductionHypothesis more later) between

theorem head?_paragraphs (texts : List Text) : (paragraphs texts).head? ≠ some '\u2014' := by
  cases texts with
  | nil => decide
  | cons first others => exact fun equal => absurd (Option.some.inj equal) (by decide)

/-- A citation in paragraphs in a row is one in a paragraph. -/
theorem cites_paragraphs (texts : List Text) : cites (paragraphs texts) = texts.any cites := by
  induction texts with
  | nil => rfl
  | cons first others inductionHypothesis =>
    have one : paragraphs (first :: others) =
        "<p>".toList ++ (first ++ (stop ++ ['\n'])) ++ paragraphs others := rfl
    have quiet : cites (stop ++ ['\n']) = false := by decide
    rw [one, cites_append_of_head? (head?_paragraphs others), inductionHypothesis,
      cites_oneLine_append (by decide), cites_append_of_head? (by decide), quiet, Bool.or_false,
      List.any_cons]

/-! ### The markup of a quote -/

variable {texts : List Text}

/-- Without a citation a quote shows all paragraphs. -/
theorem quoteMarkup_paragraphs_of_uncited (nonempty : texts ≠ [])
    (prose : ∀ text ∈ texts, IsProse text) (uncited : texts.any cites = false) :
    Hook.quoteMarkup (paragraphs texts) = "<blockquote>\n<p>".toList ++
      (Text.join between texts ++ (stop ++ "</blockquote>\n".toList)) := by
  have solid := isSolid_join nonempty fun text member => (prose text member).isSolid
  rw [← cites_paragraphs, cites_eq_false_iff] at uncited
  rw [quoteMarkup_of_uncited uncited, paragraphs_eq_join nonempty,
    solid.isBare.stripMarks_paragraph]

/-- No citation stands behind the last one of a paragraph, if those behind that one have none. -/
theorem cites_behind {behind : Text} {after : List Text} (last : cites behind = false)
    (uncited : after.any cites = false) :
    cites (behind ++ (stop ++ ('\n' :: paragraphs after))) = false := by
  have ending : stop ++ ('\n' :: paragraphs after) = (stop ++ ['\n']) ++ paragraphs after := by
    simp
  have quiet : cites (stop ++ ['\n']) = false := by decide
  have tag : (stop ++ ('\n' :: paragraphs after)).head? ≠ some '\u2014' :=
    fun equal => absurd (Option.some.inj equal) (by decide)
  rw [cites_append_of_head? tag, last, ending, cites_append_of_head? (head?_paragraphs after),
    quiet, cites_paragraphs, uncited]
  rfl

/-- Nothing in the footer of prose becomes a link. -/
theorem citationFooter_of_isProse {behind : Text} (prose : IsProse ('\u2014' :: behind)) :
    Hook.citationFooter (some (citationMarker ++ behind)) =
      "<footer>".toList ++ (citationMarker ++ (behind ++ "</footer>".toList)) := by
  have noAddress : ¬ "://".toList <:+: behind ++ "</footer>".toList :=
    Text.not_infix_append (by decide) (Or.inr (by decide))
      (fun inside => prose.noAddress (inside.trans (List.suffix_cons _ _).isInfix)) (by decide)
  have noTag : '<' ∉ behind := fun member => prose.noTag (List.mem_cons_of_mem _ member)
  have linked : Html.autolink (behind ++ "</footer>".toList) = behind ++ "</footer>".toList :=
    (Html.autolink_plain_append noTag noAddress).trans (congrArg (behind ++ ·) rfl)
  rw [Hook.citationFooter, List.append_assoc, List.append_assoc, autolink_footer, linked]

/-- With a citation a quote shows the paragraphs in front of it and, in the footer, what follows it
in its own paragraph. -/
theorem quoteMarkup_paragraphs_of_cited {before after : List Text} {front behind : Text}
    (prose : ∀ text ∈ before ++ [front ++ (citationMarker ++ behind)], IsProse text)
    (last : cites behind = false) (uncited : after.any cites = false) :
    Hook.quoteMarkup (paragraphs (before ++ (front ++ (citationMarker ++ behind)) :: after)) =
      "<blockquote>\n<p>".toList ++ (Text.join between (before ++ [front]) ++ (stop ++
        ("<footer>".toList ++ (citationMarker ++ (behind ++ "</footer>".toList)) ++
          "</blockquote>\n".toList))) := by
  obtain ⟨proseBefore, proseCited⟩ := List.forall_mem_append.mp prose
  obtain ⟨proseFront, proseBehind⟩ := (proseCited _ List.mem_cons_self).of_lineEnd
  have inFooter : Hook.citationFooter (some (citationMarker ++ behind)) = _ :=
    citationFooter_of_isProse proseBehind
  have solid : IsSolid (Text.join between (before ++ [front])) := by
    refine isSolid_join (List.concat_ne_nil _ _) (List.forall_mem_append.mpr ⟨?_, ?_⟩)
    · exact fun text member => (proseBefore text member).isSolid
    · exact List.forall_mem_singleton.mpr proseFront.isSolid
  have spelled : paragraphs (before ++ (front ++ (citationMarker ++ behind)) :: after) =
      ("<p>".toList ++ Text.join between (before ++ [front])) ++
        (citationMarker ++ (behind ++ (stop ++ ('\n' :: paragraphs after)))) := by
    rw [← paragraphs_append_start]
    simp [paragraphs]
  have absent : ¬ citationMarker <:+: behind ++ (stop ++ ('\n' :: paragraphs after)) := by
    rw [← cites_iff, cites_behind last uncited]
    exact Bool.noConfusion
  have nonempty : "<p>".toList ++ Text.join between (before ++ [front]) ≠ [] :=
    List.cons_ne_nil _ _
  have trimmed : Text.trim ("<p>".toList ++ Text.join between (before ++ [front])) =
      "<p>".toList ++ Text.join between (before ++ [front]) := by
    obtain ⟨inner, final, equal, visible, -⟩ := solid.last
    rw [equal, ← List.append_assoc]
    exact Text.trimEnd_concat visible ("<p>".toList ++ inner)
  have shown : beforeParagraphEnd (citationMarker ++
      (behind ++ (stop ++ ('\n' :: paragraphs after)))) = citationMarker ++ behind := by
    have plain : '<' ∉ citationMarker ++ behind :=
      List.not_mem_cons_of_ne_of_not_mem (by decide) proseBehind.noTag
    rw [← List.append_assoc, beforeParagraphEnd_append_stop,
      beforeParagraphEnd_of_not_hasStop (hasStop_plain plain)]
  rw [spelled, quoteMarkup_of_cited nonempty (breakOnLast_citation absent _), trimmed,
    solid.isBare.stripMarks, shown, inFooter]

/-! ### Rendering -/

theorem isNote_eq_false {text : Text} (solid : IsSolid text) : Footnote.isNote text = false := by
  obtain ⟨first, rest, rfl, -, -, other⟩ := solid.head
  have noLabel : Footnote.label? (first :: rest) = none := by
    unfold Footnote.label?
    split
    · next equal => exact absurd (List.cons.inj equal).1 other
    · rfl
  rw [Footnote.isNote, Footnote.note?, noLabel]
  rfl

/-- Behind a paragraph, paragraphs of prose are rendered without markers and leave the state as it
is. -/
theorem renderAll_paragraphs (options : Options) {state : RenderState}
    (behind : state.enter .paragraph none = (none, state)) (prose : ∀ text ∈ texts, IsProse text) :
    renderAll options (texts.map .paragraph) state = (paragraphs texts, state) := by
  induction texts with
  | nil => rfl
  | cons first others inductionHypothesis =>
    obtain ⟨here, later⟩ := List.forall_mem_cons.mp prose
    have markup := paragraphMarkup_of_plain here.noTag (isNote_eq_false here.isSolid)
    have rendered : Hook.paragraph state first = (Hook.paragraphMarkup first, state) := by
      rw [Hook.paragraph, Hook.emit, behind]
      rfl
    rw [List.map_cons, renderAll, Tree.render, rendered, markup]
    simp only [inductionHypothesis later]
    rfl

/-- Of paragraphs of prose in a row only the first one may write a marker. -/
theorem renderAll_paragraphs_marked (options : Options) (state : RenderState)
    (nonempty : texts ≠ []) (prose : ∀ text ∈ texts, IsProse text) :
    renderAll options (texts.map .paragraph) state =
      (markerHtml (state.enter .paragraph none).1 ++ paragraphs texts,
        (state.enter .paragraph none).2) := by
  obtain ⟨first, others, rfl⟩ := List.exists_cons_of_ne_nil nonempty
  obtain ⟨here, later⟩ := List.forall_mem_cons.mp prose
  have markup := paragraphMarkup_of_plain here.noTag (isNote_eq_false here.isSolid)
  have rest : renderAll options (others.map .paragraph) (state.enter .paragraph none).2 =
      (paragraphs others, (state.enter .paragraph none).2) :=
    renderAll_paragraphs options rfl later
  rw [List.map_cons, renderAll, Tree.render, Hook.paragraph, Hook.emit, markup]
  simp only [rest, List.append_assoc]
  simp only [paragraphs, List.flatMap_cons, List.append_assoc]

/-- The quote of some paragraphs, all rendered from a state on. -/
def ofParagraphs (options : Options) (state : RenderState) (texts : List Text) : Text :=
  ((Tree.quote (texts.map .paragraph)).render options state).1

/-- What stands in front of the markup of a quote does not depend on its paragraphs. -/
theorem exists_ofParagraphs_eq (options : Options) (state : RenderState) :
    ∃ marker, ∀ texts : List Text, texts ≠ [] → (∀ text ∈ texts, IsProse text) →
      ofParagraphs options state texts =
        ['\n'] ++ markerHtml marker ++ Hook.quoteMarkup (paragraphs texts) := by
  by_cases last : state.lastBlock = some .paragraph
  · refine ⟨((state.enter .paragraph none).2.enter .quote none).1, fun texts nonempty prose => ?_⟩
    have noMarker : (state.enter .paragraph none).1 = none := if_pos last
    have noOpener : Text.after? GroupMarker.opener.html (paragraphs texts) = none := by
      rw [paragraphs_eq_join nonempty]
      refine Text.after?_eq_none fun starts => ?_
      exact absurd (List.cons_prefix_cons.mp (List.cons_prefix_cons.mp starts).2).1 (by decide)
    rw [ofParagraphs, Tree.render, renderAll_paragraphs_marked options state nonempty prose,
      noMarker]
    simp only [markerHtml, List.nil_append, Hook.quote, noOpener]
  · refine ⟨((state.enter .paragraph none).2.discardGroup.enter .quote none).1,
      fun texts nonempty prose => ?_⟩
    have opener : (state.enter .paragraph none).1 = some .opener := if_neg last
    have found : Text.after? GroupMarker.opener.html
        (GroupMarker.opener.html ++ paragraphs texts) = some (paragraphs texts) :=
      Text.after?_append _ _
    rw [ofParagraphs, Tree.render, renderAll_paragraphs_marked options state nonempty prose, opener]
    simp only [markerHtml, Hook.quote, found]

/-! ### Lines -/

/-- The paragraphs that a quote shows: those up to the last one with a citation, or all of them if
there is none. -/
def shown (texts : List Text) : List Text :=
  if texts.any cites then texts.rdropWhile fun text => !cites text else texts

/-- The paragraphs that are not shown cite nothing and follow one that does. -/
theorem shown_cases (texts : List Text) :
    texts.any cites = false ∧ shown texts = texts ∨
      ∃ before last after, texts = before ++ last :: after ∧ cites last = true ∧
        after.any cites = false ∧ shown texts = before ++ [last] := by
  induction texts using List.reverseRecOn with
  | nil => exact Or.inl ⟨rfl, rfl⟩
  | append_singleton texts text inductionHypothesis =>
    unfold shown at inductionHypothesis ⊢
    cases cited : cites text with
    | true =>
      refine Or.inr ⟨texts, text, [], rfl, cited, rfl, ?_⟩
      rw [if_pos (by simp [cited]), List.rdropWhile_concat_neg _ _ _ (by simp [cited])]
    | false =>
      rcases inductionHypothesis with
        ⟨uncited, whole⟩ | ⟨before, last, after, rfl, cites', none, whole⟩
      · refine Or.inl ⟨by simp [uncited, cited], ?_⟩
        rw [if_neg (by simp [uncited, cited])]
      · refine Or.inr ⟨before, last, after ++ [text], by simp, cites', by simp [none, cited], ?_⟩
        have among : (before ++ last :: after).any cites = true := by simp [cites']
        rw [if_pos among] at whole
        rw [if_pos (by rw [List.any_append, among]; rfl),
          List.rdropWhile_concat_pos _ _ _ (by simp [cited]), whole]

/-- All paragraphs are shown if none of them cites anything or the last one does. -/
theorem shown_eq_self_iff (texts : List Text) :
    shown texts = texts ↔ texts.any cites = false ∨ ∃ last ∈ texts.getLast?, cites last = true := by
  rcases shown_cases texts with ⟨uncited, whole⟩ | ⟨before, last, after, rfl, cited, none, whole⟩
  · exact ⟨fun _ => Or.inl uncited, fun _ => whole⟩
  have among : (before ++ last :: after).any cites = true := by simp [cited]
  rw [whole, among]
  constructor
  · intro equal
    refine Or.inr ⟨last, ?_, cited⟩
    rw [← equal]
    exact List.getLast?_concat
  · rintro (impossible | ⟨final, isLast, citesFinal⟩)
    · cases impossible
    cases after using List.reverseRecOn with
    | nil => rfl
    | append_singleton after text =>
      have spelled : before ++ last :: (after ++ [text]) = before ++ last :: after ++ [text] := by
        simp
      rw [spelled, List.getLast?_concat] at isLast
      cases isLast
      rw [List.any_append, List.any_cons, citesFinal, Bool.true_or, Bool.or_true] at none
      cases none

/-- A text with a citation is cut in front of its last one. -/
theorem exists_citation {text : Text} (cited : cites text = true) :
    ∃ front behind, text = front ++ (citationMarker ++ behind) ∧ cites behind = false := by
  obtain ⟨⟨front, behind⟩, found⟩ : ∃ parts, Text.breakOnLast citationMarker text = some parts := by
    rw [← Option.isSome_iff_exists, Option.isSome_iff_ne_none, Ne, ← cites_eq_false_iff, cited]
    exact Bool.noConfusion
  refine ⟨front, behind, ?_, ?_⟩
  · rw [Text.breakOnLast_spells found, List.append_assoc]
  · rw [← Bool.not_eq_true, cites_iff]
    exact Text.not_infix_behind_of_breakOnLast citationMarker_ne_nil found

/-- A line of the paragraphs up to a citation stands in the body of the quote or in its footer. -/
theorem line_in_body_or_footer {before : List Text} {front behind text line : Text}
    (member : text ∈ before ++ [front ++ (citationMarker ++ behind)])
    (inText : line ∈ Text.lines text) :
    line <:+: Text.join between (before ++ [front]) ∨ line <:+: citationMarker ++ behind := by
  rcases List.mem_append.mp member with earlier | here
  · exact Or.inl ((Text.infix_of_mem_lines inText).trans
      (Text.infix_join (List.mem_append_left _ earlier)))
  · rw [List.mem_singleton.mp here] at inText
    have split : Text.lines (front ++ (citationMarker ++ behind)) =
        Text.lines front ++ Text.lines ('\u2014' :: behind) :=
      Text.lines_append_lineEnd front ('\u2014' :: behind)
    rw [split] at inText
    rcases List.mem_append.mp inText with inBody | inFooter
    · exact Or.inl ((Text.infix_of_mem_lines inBody).trans
        (Text.infix_join (List.mem_append_right _ List.mem_cons_self)))
    · exact Or.inr ((Text.infix_of_mem_lines inFooter).trans (List.suffix_cons _ _).isInfix)

/-- A quote of paragraphs of prose shows every line of the paragraphs up to the last one with a
citation, which is the line that starts with an em dash behind another line, and all lines if there
is no citation. The paragraphs behind that one leave no trace. So all paragraphs are shown exactly
if none has a citation or the last one has. -/
theorem quote_shows_lines_up_to_last_citation (options : Options) (state : RenderState)
    (nonempty : texts ≠ []) (prose : ∀ text ∈ texts, IsProse text) :
    (∀ text ∈ shown texts, ∀ line ∈ Text.lines text,
        line <:+: ofParagraphs options state texts) ∧
      ofParagraphs options state texts = ofParagraphs options state (shown texts) ∧
      (shown texts = texts ↔
        texts.any cites = false ∨ ∃ last ∈ texts.getLast?, cites last = true) := by
  obtain ⟨marker, rendered⟩ := exists_ofParagraphs_eq options state
  rcases shown_cases texts with ⟨uncited, whole⟩ | ⟨before, last, after, rfl, cited, none, whole⟩
  · refine ⟨fun text member line inText => ?_, by rw [whole], shown_eq_self_iff texts⟩
    rw [whole] at member
    have inside : line <:+: Text.join between texts :=
      (Text.infix_of_mem_lines inText).trans (Text.infix_join member)
    rw [rendered texts nonempty prose, quoteMarkup_paragraphs_of_uncited nonempty prose uncited]
    exact (inside.trans (List.infix_append' _ _ _)).trans (List.suffix_append _ _).isInfix
  · obtain ⟨front, behind, rfl, final⟩ := exists_citation cited
    have proseShown : ∀ text ∈ before ++ [front ++ (citationMarker ++ behind)], IsProse text :=
      fun text member => prose text (by
        rcases List.mem_append.mp member with earlier | here
        · exact List.mem_append_left _ earlier
        · rw [List.mem_singleton.mp here]
          exact List.mem_append_right _ List.mem_cons_self)
    have long := quoteMarkup_paragraphs_of_cited proseShown final none
    have nothing : ([] : List Text).any cites = false := rfl
    have short := quoteMarkup_paragraphs_of_cited proseShown final nothing
    have same : ofParagraphs options state
          (before ++ (front ++ (citationMarker ++ behind)) :: after) =
        ofParagraphs options state (before ++ [front ++ (citationMarker ++ behind)]) := by
      rw [rendered _ nonempty prose, rendered _ (List.concat_ne_nil _ _) proseShown, long, short]
    refine ⟨fun text member line inText => ?_, by rw [whole, same], shown_eq_self_iff _⟩
    rw [whole] at member
    rw [rendered _ nonempty prose, long]
    rcases line_in_body_or_footer member inText with body | footer
    · exact (body.trans (List.infix_append' _ _ _)).trans (List.suffix_append _ _).isInfix
    · refine footer.trans ⟨['\n'] ++ markerHtml marker ++ "<blockquote>\n<p>".toList ++
        Text.join between (before ++ [front]) ++ stop ++ "<footer>".toList,
        "</footer>".toList ++ "</blockquote>\n".toList, ?_⟩
      simp only [List.append_assoc]

/-- A paragraph behind the one with the citation leaves no trace. -/
theorem quote_of_three_shows_two :
    let texts := ["first".toList, "second\n\u2014 someone".toList, "later".toList]
    let html := ofParagraphs {} (.fresh 1) texts
    texts ≠ [] ∧ (∀ text ∈ texts, IsProse text) ∧
      "first".toList <:+: html ∧ "second".toList <:+: html ∧ "\u2014 someone".toList <:+: html ∧
      html = ofParagraphs {} (.fresh 1) ["first".toList, "second\n\u2014 someone".toList] ∧
      shown texts ≠ texts := by
  intro texts html
  have nonempty : texts ≠ [] := List.cons_ne_nil _ _
  have prose : ∀ text ∈ texts, IsProse text := by decide
  obtain ⟨lines, same, -⟩ :=
    quote_shows_lines_up_to_last_citation {} (.fresh 1) nonempty prose
  have cut : shown texts = ["first".toList, "second\n\u2014 someone".toList] := by decide
  rw [cut] at lines same
  have inLast := lines "second\n\u2014 someone".toList (by decide)
  refine ⟨nonempty, prose, lines "first".toList (by decide) _ (by decide), inLast _ (by decide),
    inLast _ (by decide), same, ?_⟩
  rw [cut]
  decide

/-- Whether a line starts with a letter or an em dash and ends with a letter. -/
def isLettered (line : Text) : Bool :=
  line.head?.any (fun first => first.isAlpha || first == '\u2014') && line.getLast?.any Char.isAlpha

/-- A quote may lose a line that is quoted. -/
theorem quote_may_lose_a_line :
    ¬ ∀ (options : Options) (state : RenderState) (texts : List Text), texts ≠ [] →
      (∀ text ∈ texts, (Text.lines text).all isLettered = true ∧ '<' ∉ text ∧ '&' ∉ text ∧
        Text.occursIn "://".toList text = false) →
      ∀ text ∈ texts, ∀ line ∈ Text.lines text, line <:+: ofParagraphs options state texts := by
  intro always
  have inside := always {} (.fresh 1) ["first\n\u2014 someone".toList, "later".toList]
    (List.cons_ne_nil _ _) (by decide) "later".toList (by decide) "later".toList (by decide)
  have html : ofParagraphs {} (.fresh 1) ["first\n\u2014 someone".toList, "later".toList] =
      "\n<blockquote>\n<p>first</p><footer>\n\u2014 someone</footer></blockquote>\n".toList := by
    decide
  rw [html, ← Text.occursIn_iff (by decide)] at inside
  exact absurd inside (by decide)

end Quote

end BookMarkup
