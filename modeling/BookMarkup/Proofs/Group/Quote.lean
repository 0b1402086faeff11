/-
This file proves how a quote changes the outline of its content. The footer with the
citation is autolinked, but autolinking neither makes nor breaks a marker, a paragraph end
or a citation. A quote without a citation keeps everything; one with a citation keeps the
markers up to it and in it, and what stood behind the paragraph of the citation is gone.
-/

import BookMarkup.Hook.Block
import BookMarkup.Proofs.Group.Strip
import BookMarkup.Proofs.Html.Attribute
import BookMarkup.Proofs.Html.Autolink

namespace BookMarkup

namespace Group

/-! ### Autolinking -/

/-- What autolinking leaves alone: block tags, and the start of a citation. -/
def IsCut (needle : Text) : Prop :=
  needle = Quote.citationMarker ∨
    IsBlockTag needle ∧ '>' ∉ needle.dropLast

theorem isCut_marker (marker : GroupMarker) : IsCut marker.html :=
  Or.inr ⟨isBlockTag_marker marker, by cases marker <;> decide⟩

theorem isCut_stop : IsCut stop := Or.inr ⟨isBlockTag_stop, by decide⟩

/-- The anchor of a URL is tame and stands on one line. -/
theorem quiet_anchorTo {url : Text} (plain : ∀ c ∈ url, c ≠ '<' ∧ c ≠ '\n') :
    isTame (Html.anchorTo url) = true ∧ '\n' ∉ Html.anchorTo url := by
  have noTag : '<' ∉ url := fun member => (plain '<' member).1 rfl
  have oneLine : '\n' ∉ url := fun member => (plain '\n' member).2 rfl
  have noTagEscaped : '<' ∉ Html.escapeAttribute url := fun member =>
    (Html.mem_escapeAttribute member).elim noTag (by decide)
  have oneLineEscaped : '\n' ∉ Html.escapeAttribute url := fun member =>
    (Html.mem_escapeAttribute member).elim oneLine (by decide)
  unfold Html.anchorTo
  constructor
  · refine isTame_append (isTame_append (isTame_append (isTame_append (by decide) ?_) ?_) ?_) ?_
    · exact isTame_of_plain noTagEscaped
    · decide
    · exact isTame_of_plain noTag
    · decide
  · simp only [List.mem_append, not_or]
    exact ⟨⟨⟨⟨by decide, oneLineEscaped⟩, by decide⟩, oneLine⟩, by decide⟩

section Cut

variable {Sign : Type} {needles : List (Text × Sign)}
  (cuts : ∀ needle ∈ needles, IsCut needle.1)

include cuts in
/-- Tame markup on one line adds nothing to the text behind it. -/
theorem signs_quiet_append {front : Text} (tame : isTame front = true) (oneLine : '\n' ∉ front)
    (rest : Text) : Text.signs needles (front ++ rest) = Text.signs needles rest := by
  induction front with
  | nil => rfl
  | cons head front inductionHypothesis =>
    have none : Text.signAt? needles (head :: (front ++ rest)) = none := by
      refine Text.signAt?_eq_none_iff.mpr fun needle member starts => ?_
      rcases cuts needle member with equal | ⟨tag, -⟩
      · rw [equal] at starts
        have first : '\n' = head := (List.cons_prefix_cons.mp starts).1
        exact oneLine (first ▸ List.mem_cons_self)
      · exact not_prefix_of_isTame tag tame rest starts
    rw [isTame, Bool.and_eq_true] at tame
    rw [List.cons_append, Text.signs_cons_of_none none]
    exact inductionHypothesis tame.2 fun member => oneLine (List.mem_cons_of_mem _ member)

include cuts in
/-- What a kept character starts depends on whether an em dash stands behind it. -/
theorem signs_kept {c : Char} (other : c ≠ '<') {first second : Text}
    (same : Text.signs needles first = Text.signs needles second)
    (dash : first.head? = some '\u2014' ↔ second.head? = some '\u2014') :
    Text.signs needles (c :: first) = Text.signs needles (c :: second) := by
  have here : Text.signAt? needles (c :: first) = Text.signAt? needles (c :: second) := by
    refine Text.signAt?_congr fun needle member => ?_
    rcases cuts needle member with equal | ⟨tag, -⟩
    · rw [equal]
      unfold Quote.citationMarker
      rw [List.cons_prefix_cons, List.cons_prefix_cons,
        List.singleton_prefix_iff_head?_eq_some, List.singleton_prefix_iff_head?_eq_some, dash]
    · obtain ⟨letter, tail, -, shape⟩ := tag
      rcases shape with equal | equal
      · rw [equal, List.cons_prefix_cons, List.cons_prefix_cons]
        exact ⟨fun starts => absurd starts.1.symm other, fun starts => absurd starts.1.symm other⟩
      · rw [equal, List.cons_prefix_cons, List.cons_prefix_cons]
        exact ⟨fun starts => absurd starts.1.symm other, fun starts => absurd starts.1.symm other⟩
  rw [Text.signs, Text.signs, here, same]

include cuts in
theorem meetApart_of_getLast? {left : Text} (ends : left.getLast? = some '>') (right : Text) :
    Text.MeetApart needles left right := by
  refine fun needle member => Or.inl fun last inLast => ?_
  rw [ends] at inLast
  cases inLast
  rcases cuts needle member with equal | ⟨-, within⟩
  · rw [equal]
    decide
  · exact within

include cuts in
/-- Autolinking neither makes nor breaks what it leaves alone. -/
theorem signs_autolink_and_head (text : Text) (ends : text = [] ∨ text.getLast? = some '>') :
    Text.signs needles (Html.autolink text) = Text.signs needles text ∧
      ((Html.autolink text).head? = some '\u2014' ↔ text.head? = some '\u2014') := by
  induction size : text.length using Nat.strongRecOn generalizing text with
  | ind count inductionHypothesis =>
    rcases ends with rfl | ends
    · exact ⟨rfl, Iff.rfl⟩
    obtain ⟨piece, written, rest, linked, nonempty, rfl, autolinked⟩ := Html.autolink_cases ends
    have shorter : rest.length < count := by
      have positive := List.length_pos_iff.mpr nonempty
      rw [List.length_append] at size
      omega
    have restEnds : rest = [] ∨ rest.getLast? = some '>' := by
      by_cases empty : rest = []
      · exact Or.inl empty
      · exact Or.inr ((List.getLast?_append_of_ne_nil piece empty).symm.trans ends)
    obtain ⟨same, dash⟩ := inductionHypothesis rest.length shorter rest restEnds rfl
    rw [autolinked]
    cases linked with
    | kept other => exact ⟨signs_kept cuts other same dash, Iff.rfl⟩
    | tag starts pieceEnds =>
      obtain ⟨tail, rfl⟩ := List.head?_eq_some_iff.mp starts
      refine ⟨?_, Iff.rfl⟩
      rw [Text.signs_append (meetApart_of_getLast? cuts pieceEnds _),
        Text.signs_append (meetApart_of_getLast? cuts pieceEnds _), same]
    | @url shown behind plain starts =>
      obtain ⟨plainShown, plainBehind⟩ := List.forall_mem_append.mp plain
      obtain ⟨tameAnchor, lineAnchor⟩ := quiet_anchorTo plainShown
      have noTag {part : Text} (isPlain : ∀ c ∈ part, c ≠ '<' ∧ c ≠ '\n') : isTame part = true :=
        isTame_of_plain fun member => (isPlain '<' member).1 rfl
      have oneLine {part : Text} (isPlain : ∀ c ∈ part, c ≠ '<' ∧ c ≠ '\n') : '\n' ∉ part :=
        fun member => (isPlain '\n' member).2 rfl
      constructor
      · rw [signs_quiet_append cuts (noTag plain) (oneLine plain),
          signs_quiet_append cuts (isTame_append tameAnchor (noTag plainBehind)) ?_, same]
        exact List.not_mem_append lineAnchor (oneLine plainBehind)
      · obtain ⟨first, inHead, isLetter⟩ := starts
        have noDash : first ≠ '\u2014' := by
          rintro rfl
          exact absurd isLetter (by decide)
        have anchorHead :
            (Html.anchorTo shown ++ behind ++ Html.autolink rest).head? = some '<' := rfl
        rw [anchorHead, List.head?_append, Option.mem_def.mp inHead]
        exact ⟨fun dash => absurd (Option.some.inj dash) (by decide),
          fun dash => absurd (Option.some.inj dash) noDash⟩

include cuts in
theorem signs_autolink {text : Text} (ends : text.getLast? = some '>') :
    Text.signs needles (Html.autolink text) = Text.signs needles text :=
  (signs_autolink_and_head cuts text (Or.inr ends)).1

end Cut

/-! ### The footer -/

theorem not_infix_autolink {needle : Text} (cut : IsCut needle) (nonempty : needle ≠ [])
    {text : Text} (ends : text.getLast? = some '>') (absent : ¬ needle <:+: text) :
    ¬ needle <:+: Html.autolink text := by
  rw [← Text.signs_singleton_eq_nil_iff nonempty] at absent ⊢
  rw [signs_autolink (List.forall_mem_singleton.mpr cut) ends, absent]

theorem autolink_footer (rest : Text) :
    Html.autolink ("<footer>".toList ++ (Quote.citationMarker ++ rest)) =
      "<footer>".toList ++ (Quote.citationMarker ++ Html.autolink rest) := by
  have tag : Html.autolink ("<footer>".toList ++ (Quote.citationMarker ++ rest)) =
      Html.linkFound "<footer>".toList ++ Html.autolink (Quote.citationMarker ++ rest) :=
    Text.substitute_append_of_match (by decide) (Quote.citationMarker ++ rest) rfl
  have lineEnd : Html.autolink ('\n' :: '\u2014' :: rest) =
      '\n' :: Html.autolink ('\u2014' :: rest) :=
    Text.substitute_cons_of_zero (Html.autolinkPattern_of_ne (by decide) _)
  have dash : Html.autolink ('\u2014' :: rest) = '\u2014' :: Html.autolink rest :=
    Text.substitute_cons_of_zero (Html.autolinkPattern_of_ne (by decide) _)
  have kept : Html.linkFound "<footer>".toList = "<footer>".toList := rfl
  rw [kept] at tag
  refine tag.trans (congrArg ("<footer>".toList ++ ·) ?_)
  exact lineEnd.trans (congrArg ('\n' :: ·) dash)

/-- The footer of a quote shows the citation, in which no marker, no paragraph end and no other
citation comes up. -/
theorem citationFooter_spells (behind : Text) : ∃ shown,
    Hook.citationFooter (some (Quote.beforeParagraphEnd (Quote.citationMarker ++ behind))) =
      "<footer>".toList ++ (Quote.citationMarker ++ shown) ∧
    marks shown = marks (Quote.beforeParagraphEnd behind) ∧ hasStop shown = false ∧
    (¬ Quote.citationMarker <:+: behind → ¬ Quote.citationMarker <:+: shown) := by
  have cut : Quote.beforeParagraphEnd (Quote.citationMarker ++ behind) =
      Quote.citationMarker ++ Quote.beforeParagraphEnd behind :=
    beforeParagraphEnd_tame_append (by decide) behind
  have ends : (Quote.beforeParagraphEnd behind ++ "</footer>".toList).getLast? = some '>' :=
    List.getLast?_append_of_ne_nil _ (by decide)
  have starts : StartsBlock "</footer>".toList := Or.inr (Or.inl rfl)
  refine ⟨Html.autolink (Quote.beforeParagraphEnd behind ++ "</footer>".toList), ?_, ?_, ?_, ?_⟩
  · rw [Hook.citationFooter, cut, ← autolink_footer]
    simp only [List.append_assoc]
  · have same := signs_autolink (forall_mem_needles isCut_marker) ends
    have none : marks "</footer>".toList = [] := by decide
    rw [marks, same, ← marks, marks_append_of_head? (head?_of_startsBlock starts), none,
      List.append_nil]
  · rw [hasStop_eq_false_iff]
    refine not_infix_autolink isCut_stop stop_ne_nil ends ?_
    rw [← hasStop_eq_false_iff, hasStop_append (apart_stop_of_startsBlock starts _),
      hasStop_beforeParagraphEnd]
    decide
  · intro absent
    refine not_infix_autolink (Or.inl rfl) citationMarker_ne_nil ends ?_
    refine Text.not_infix_append citationMarker_ne_nil (apart_citation_of_startsBlock starts _)
      (fun inside => absent ?_) (by decide)
    exact inside.trans (beforeParagraphEnd_starts behind).isInfix

/-! ### The quote -/

theorem quoteMarkup_of_uncited {content : Text}
    (absent : Text.breakOnLast Quote.citationMarker content = none) :
    Hook.quoteMarkup content = "<blockquote>\n<p>".toList ++ (Quote.stripMarks content ++
      (stop ++ "</blockquote>\n".toList)) := by
  have uncited : Quote.split content = ⟨content, none⟩ := by
    unfold Quote.split
    rw [absent]
  unfold Hook.quoteMarkup stop
  simp only [uncited, Hook.citationFooter, List.append_assoc, List.nil_append]

theorem quoteMarkup_of_cited {content body behind : Text} (nonempty : body ≠ [])
    (found : Text.breakOnLast Quote.citationMarker content = some (body, behind)) :
    Hook.quoteMarkup content = "<blockquote>\n<p>".toList ++ (Quote.stripMarks (Text.trim body) ++
      (stop ++ (Hook.citationFooter (some (Quote.beforeParagraphEnd
        (Quote.citationMarker ++ behind))) ++ "</blockquote>\n".toList))) := by
  have cited : Quote.split content = ⟨Text.trim body,
      some (Quote.beforeParagraphEnd (Quote.citationMarker ++ behind))⟩ := by
    have some' : body.isEmpty ≠ true := mt List.isEmpty_iff.mp nonempty
    unfold Quote.split
    rw [found]
    exact if_neg some'
  unfold Hook.quoteMarkup stop
  simp only [cited, List.append_assoc]

theorem breakOnLast_citation {behind : Text} (absent : ¬ Quote.citationMarker <:+: behind)
    (front : Text) :
    Text.breakOnLast Quote.citationMarker (front ++ (Quote.citationMarker ++ behind)) =
      some (front, behind) := by
  have noLater : Text.breakOnLast Quote.citationMarker ('\u2014' :: behind) = none := by
    rw [Text.breakOnLast_eq_none_iff citationMarker_ne_nil, List.infix_cons_iff, not_or]
    refine ⟨fun starts => ?_, absent⟩
    exact absurd (List.cons_prefix_cons.mp starts).1 (by decide)
  have here : Text.breakOnLast Quote.citationMarker (Quote.citationMarker ++ behind) =
      some ([], behind) := by
    have starts := Text.after?_append Quote.citationMarker behind
    unfold Quote.citationMarker at *
    rw [List.cons_append] at starts ⊢
    have noDash : Text.breakOnLast ['\n', '\u2014'] (['\u2014'] ++ behind) = none := noLater
    rw [Text.breakOnLast, starts, noDash]
    rfl
  have found := Text.breakOnLast_append_of_some front here
  rwa [List.append_nil] at found

/-- The markers of a quote are those of its body and of its footer. -/
theorem marks_quoteStart_append (body : Text) {rest : Text}
    (starts : ∀ first ∈ rest.head?, first = '<' ∨ first = '\n') :
    marks ("<blockquote>\n<p>".toList ++ (body ++ rest)) = marks body ++ marks rest := by
  rw [marks_mute_append (by decide) (by decide), marks_append_of_head? starts]

/-- A quote without a citation keeps the markers of its content. -/
theorem outlineOf_quoteMarkup_of_uncited {content : Text}
    (closed : ¬ "<p>".toList <:+ Text.trimEnd content)
    (absent : Text.breakOnLast Quote.citationMarker content = none) :
    outlineOf (Hook.quoteMarkup content) =
      ⟨false, marks (Quote.beforeParagraphEnd content), true, marks content⟩ := by
  have same := sameMarks_stripMarks closed
  have notInside : ¬ Quote.citationMarker <:+: Quote.stripMarks content := fun inside =>
    (Text.breakOnLast_eq_none_iff citationMarker_ne_nil).mp absent
      (inside.trans (stripMarks_inside content))
  have starts : StartsBlock (stop ++ "</blockquote>\n".toList) := Or.inr (Or.inl rfl)
  have ends : ∀ last ∈ "<blockquote>\n<p>".toList.getLast?, last = '>' := by decide
  have apartStop (right : Text) : Text.Apart stop "<blockquote>\n<p>".toList right :=
    Or.inl fun last inLast => by
      rw [ends last inLast]
      decide
  have apartCitation (right : Text) :
      Text.Apart Quote.citationMarker "<blockquote>\n<p>".toList right :=
    Or.inl fun last inLast => by
      rw [ends last inLast]
      decide
  have noTail : marks (stop ++ "</blockquote>\n".toList) = [] := by decide
  rw [quoteMarkup_of_uncited absent]
  have uncited : Text.breakOnLast Quote.citationMarker ("<blockquote>\n<p>".toList ++
      (Quote.stripMarks content ++ (stop ++ "</blockquote>\n".toList))) = none := by
    rw [Text.breakOnLast_eq_none_iff citationMarker_ne_nil]
    refine Text.not_infix_append citationMarker_ne_nil (apartCitation _) (by decide) ?_
    exact Text.not_infix_append citationMarker_ne_nil (apart_citation_of_startsBlock starts _)
      notInside (by decide)
  rw [outlineOf_of_uncited uncited, Outline.mk.injEq]
  refine ⟨rfl, ?_, ?_, ?_⟩
  · rw [beforeParagraphEnd_append (apartStop _) (by decide), beforeParagraphEnd_append_stop,
      marks_mute_append (by decide) (by decide), same.kept]
  · rw [hasStop_append (apartStop _), hasStop_append (apart_stop_of_startsBlock starts _)]
    have tail : hasStop (stop ++ "</blockquote>\n".toList) = true := by decide
    rw [tail, Bool.or_true, Bool.or_true]
  · rw [marks_quoteStart_append _ (head?_of_startsBlock starts), noTail, List.append_nil, same.all]

/-- Markup with its last citation behind a closed front keeps all markers. -/
theorem outlineOf_citation {front behind : Text} (notBare : endsBare front = false)
    (absent : ¬ Quote.citationMarker <:+: behind) (noStop : hasStop behind = false) :
    outlineOf (front ++ (Quote.citationMarker ++ behind)) =
      ⟨true, marks front ++ marks behind, false, marks front ++ marks behind⟩ := by
  have inner : marks (Quote.citationMarker ++ behind) = marks behind :=
    marks_tame_append (by decide) behind
  have starts : ∀ first ∈ (Quote.citationMarker ++ behind).head?, first = '<' ∨ first = '\n' :=
    fun first inHead => Or.inr (Option.some.inj inHead).symm
  rw [outlineOf_of_breakOnLast (breakOnLast_citation absent front), keptMarks, notBare,
    if_neg Bool.false_ne_true, beforeParagraphEnd_of_not_hasStop noStop, noStop,
    marks_append_of_head? starts, inner]

/-- The front of a quote up to the citation is closed by the start tag of its footer. -/
theorem endsBare_append_footer (front : Text) : endsBare (front ++ "<footer>".toList) = false := by
  have bare : endsBare (front ++ "<footer>".toList) = endsBare "<footer>".toList :=
    endsBare_append_of_startsBlock (Or.inr (Or.inl rfl)) (by decide)
      fun tag => absurd tag (by decide)
  rw [bare]
  decide

theorem marks_append_footer (front : Text) : marks (front ++ "<footer>".toList) = marks front :=
  marks_append_mute (by decide) (by decide) front

/-- A quote with a citation keeps the markers up to it and in it. -/
theorem outlineOf_quoteMarkup_of_cited {content body behind : Text} (nonempty : body ≠ [])
    (found : Text.breakOnLast Quote.citationMarker content = some (body, behind)) :
    outlineOf (Hook.quoteMarkup content) =
      ⟨true, keptMarks body ++ marks (Quote.beforeParagraphEnd behind), false,
        keptMarks body ++ marks (Quote.beforeParagraphEnd behind)⟩ := by
  obtain ⟨shown, footer, sameMarks, noStop, noCitation⟩ := citationFooter_spells behind
  have noLater := noCitation (Text.not_infix_behind_of_breakOnLast citationMarker_ne_nil found)
  have starts : StartsBlock "</blockquote>\n".toList := Or.inr (Or.inl rfl)
  have spelled : Hook.quoteMarkup content =
      "<blockquote>\n<p>".toList ++ (Quote.stripMarks (Text.trim body) ++ stop) ++
        "<footer>".toList ++ (Quote.citationMarker ++ (shown ++ "</blockquote>\n".toList)) := by
    rw [quoteMarkup_of_cited nonempty found, footer]
    simp only [List.append_assoc]
  have absent : ¬ Quote.citationMarker <:+: shown ++ "</blockquote>\n".toList :=
    Text.not_infix_append citationMarker_ne_nil (apart_citation_of_startsBlock starts _) noLater
      (by decide)
  have noStopInFooter : hasStop (shown ++ "</blockquote>\n".toList) = false := by
    rw [hasStop_append (apart_stop_of_startsBlock starts _), noStop]
    decide
  have footerMarks : marks (shown ++ "</blockquote>\n".toList) =
      marks (Quote.beforeParagraphEnd behind) := by
    rw [marks_append_mute (by decide) (by decide), sameMarks]
  have bodyMarks : marks ("<blockquote>\n<p>".toList ++
      (Quote.stripMarks (Text.trim body) ++ stop) ++ "<footer>".toList) = keptMarks body := by
    have none : marks stop = [] := by decide
    rw [marks_append_footer, marks_quoteStart_append _ (by decide), none, List.append_nil,
      marks_stripMarks (Text.trimEnd_trim body), keptMarks_of_alike (alike_trim body)]
  rw [spelled, outlineOf_citation (endsBare_append_footer _) absent noStopInFooter, bodyMarks,
    footerMarks]

/-- The outline of a quote follows from the outline of its content. -/
theorem outlineOf_quoteMarkup {content : Text} (starts : StartsBlock content)
    (closed : ¬ "<p>".toList <:+ Text.trimEnd content) :
    outlineOf (Hook.quoteMarkup content) = (outlineOf content).quote := by
  cases broken : Text.breakOnLast Quote.citationMarker content with
  | none =>
    rw [outlineOf_quoteMarkup_of_uncited closed broken, outlineOf_of_uncited broken]
    rfl
  | some parts =>
    obtain ⟨body, behind⟩ := parts
    have nonempty := (startsBlock_before_citation (Text.breakOnLast_spells broken ▸ starts)).2
    rw [outlineOf_quoteMarkup_of_cited nonempty broken, outlineOf_of_breakOnLast broken]
    rfl

end Group

end BookMarkup
