/-
This file proves that a quote of one paragraph is taken apart where it was put together:
its marks and its citation come off, and its text and its citation are shown as they are.
The citation is cut at the last em-dash line and at the first end of a paragraph behind
it, so em-dash lines and paragraphs inside the text stay in the text.
-/

import BookMarkup.Hook.Call
import BookMarkup.Proofs.Group.Quote
import BookMarkup.Proofs.Quote.Bare
import BookMarkup.Tools.Known

namespace BookMarkup

namespace Quote

open BookMarkup.Group

/-! ### The marker in front of a quote -/

/-- A quote is rendered as its own block. The start tag of a group in front of its content is taken
out; only an open group without such a tag is closed in front of the quote. -/
theorem quote_behind_opener (state : RenderState) (grouped : Bool) {content : Text}
    (noOpener : ¬ GroupMarker.opener.html <+: content) :
    Hook.quote state ((if grouped then GroupMarker.opener.html else []) ++ content) =
      (['\n'] ++ (if !grouped && state.groupOpen then GroupMarker.closer.html else []) ++
        Hook.quoteMarkup content,
        { state with last := some .quote, lastBlock := some .quote, groupOpen := false }) := by
  cases grouped with
  | true =>
    have found := Text.after?_append GroupMarker.opener.html content
    rw [if_pos rfl, Hook.quote]
    simp only [found]
    rfl
  | false =>
    have absent := Text.after?_eq_none noOpener
    rw [if_neg Bool.false_ne_true, List.nil_append, Hook.quote]
    simp only [absent]
    obtain ⟨chapter, sections, subsections, last, lastBlock, groupOpen⟩ := state
    cases groupOpen <;> rfl

/-! ### The citation -/

variable {cited : Text}

/-- A citation without the end of a paragraph is read up to the end tag behind it. -/
theorem beforeParagraphEnd_citation (noEnd : ¬ "</p>".toList <:+: cited) :
    beforeParagraphEnd (citationMarker ++ (cited ++ "</p>\n".toList)) =
      citationMarker ++ cited := by
  have ending : "</p>\n".toList = stop ++ ['\n'] := by decide
  rw [beforeParagraphEnd_tame_append (by decide), ending, beforeParagraphEnd_append_stop,
    beforeParagraphEnd_of_not_hasStop (hasStop_eq_false_iff.mpr noEnd)]

/-- Bare text between marks in a paragraph that ends with a citation is shown without its marks,
and the citation is its footer. -/
theorem quoteMarkup_paragraph {opening closing : Option Char} {text : Text}
    (opens : ∀ mark ∈ opening, isOpeningMark mark = true)
    (closes : ∀ mark ∈ closing, isClosingMark mark = true) (bare : IsBare text)
    (noEnd : ¬ "</p>".toList <:+: cited) (noOther : ¬ citationMarker <:+: cited) :
    Hook.quoteMarkup ("<p>".toList ++ (opening.toList ++ (text ++ closing.toList)) ++
        (citationMarker ++ (cited ++ "</p>\n".toList))) =
      "<blockquote>\n<p>".toList ++ (text ++ ("</p>".toList ++
        (Hook.citationFooter (some (citationMarker ++ cited)) ++ "</blockquote>\n".toList))) := by
  obtain ⟨front, isFront⟩ :
      ∃ front, front = "<p>".toList ++ (opening.toList ++ (text ++ closing.toList)) := ⟨_, rfl⟩
  have nonempty : front ≠ [] := by
    rw [isFront]
    exact List.cons_ne_nil _ _
  have trimmed : Text.trim front = front := by
    rw [isFront]
    refine Text.trim_of_visible ⟨'<', rfl, by decide⟩ ?_
    rw [← List.append_assoc]
    exact bare.visibleEnd_closed closes _
  have absent : ¬ citationMarker <:+: cited ++ "</p>\n".toList :=
    Text.not_infix_append citationMarker_ne_nil
      (apart_citation_of_startsBlock (Or.inr (Or.inl rfl)) _) noOther (by decide)
  have stripped : stripMarks front = text := by
    rw [isFront]
    exact bare.stripMarks_marked closes opens
  rw [← isFront, quoteMarkup_of_cited nonempty (breakOnLast_citation absent front), trimmed,
    stripped, beforeParagraphEnd_citation noEnd]
  rfl

/-- A quote of one paragraph shows its text without the marks around it and its citation in the
footer, behind the end tag of a group that was open before and is not its own. -/
theorem quote_shows_text_and_citation (setting : Setting) (state : RenderState) (grouped : Bool)
    {opening closing : Option Char} {text : Text}
    (opens : ∀ mark ∈ opening, isOpeningMark mark = true)
    (closes : ∀ mark ∈ closing, isClosingMark mark = true) (bare : IsBare text)
    (noEnd : ¬ "</p>".toList <:+: cited) (noOther : ¬ citationMarker <:+: cited) :
    (Call.quote ((if grouped then GroupMarker.opener.html else []) ++
        ("<p>".toList ++ opening.toList ++ text ++ closing.toList ++ citationMarker ++ cited ++
          "</p>\n".toList))).run setting state =
      ⟨.ok (['\n'] ++ (if !grouped && state.groupOpen then GroupMarker.closer.html else []) ++
          ("<blockquote>\n<p>".toList ++ text ++ "</p>".toList ++
            Html.autolink ("<footer>".toList ++ citationMarker ++ cited ++ "</footer>".toList) ++
            "</blockquote>\n".toList)), [],
        { state with last := some .quote, lastBlock := some .quote, groupOpen := false }⟩ := by
  obtain ⟨content, isContent⟩ : ∃ content, content = "<p>".toList ++ opening.toList ++ text ++
    closing.toList ++ citationMarker ++ cited ++ "</p>\n".toList := ⟨_, rfl⟩
  have noOpener : ¬ GroupMarker.opener.html <+: content := by
    rw [isContent]
    intro starts
    exact absurd (List.cons_prefix_cons.mp (List.cons_prefix_cons.mp starts).2).1 (by decide)
  have markup := quoteMarkup_paragraph opens closes bare noEnd noOther
  simp only [← List.append_assoc] at markup
  rw [← isContent] at markup ⊢
  have rendered := quote_behind_opener state grouped noOpener
  rw [markup] at rendered
  show Call.sure (fun state => Hook.quote state _) state = _
  rw [Call.sure, rendered]
  rfl

/-- An em-dash line and the end of a paragraph inside the text stay there, and the address in the
citation becomes a link. -/
theorem quote_of_two_paragraphs_and_address :
    let setting : Setting := ⟨{}, .ofFiles []⟩
    let state := { RenderState.fresh 1 with lastBlock := some .paragraph, groupOpen := true }
    let content := "<p>\u201CFirst\n\u2014 aside</p>\n<p>last.\u201D\n".toList ++
      "\u2014 A, http://a.org</p>\n".toList
    let html := "\n</div><blockquote>\n<p>First\n\u2014 aside</p>\n<p>last.</p>".toList ++
      "<footer>\n\u2014 A, <a href=\"http://a.org\">http://a.org</a></footer>".toList ++
      "</blockquote>\n".toList
    (Call.quote content).run setting state =
      ⟨.ok html, [],
        { state with last := some .quote, lastBlock := some .quote, groupOpen := false }⟩ := by
  intro setting state content html
  obtain ⟨text, isText⟩ : ∃ text, text = "First\n\u2014 aside</p>\n<p>last.".toList := ⟨_, rfl⟩
  obtain ⟨cited, isCited⟩ : ∃ cited, cited = " A, http://a.org".toList := ⟨_, rfl⟩
  have opens : ∀ mark ∈ some '\u201C', isOpeningMark mark = true := by decide
  have closes : ∀ mark ∈ some '\u201D', isClosingMark mark = true := by decide
  have bare : IsBare text := by
    rw [isText]
    decide
  have noEnd : ¬ "</p>".toList <:+: cited := by
    rw [isCited]
    decide
  have noOther : ¬ citationMarker <:+: cited := by
    rw [isCited]
    decide
  have shown := quote_shows_text_and_citation setting state false opens closes bare noEnd noOther
  have spelled : content = "<p>".toList ++ ['\u201C'] ++ text ++ ['\u201D'] ++ citationMarker ++
      cited ++ "</p>\n".toList := by
    rw [isText, isCited]
    decide
  have markup : html = ['\n'] ++ GroupMarker.closer.html ++
      ("<blockquote>\n<p>".toList ++ text ++ "</p>".toList ++
        Html.autolink ("<footer>".toList ++ citationMarker ++ cited ++ "</footer>".toList) ++
        "</blockquote>\n".toList) := by
    rw [isText, isCited]
    decide
  rw [spelled, markup]
  exact shown

end Quote

end BookMarkup
