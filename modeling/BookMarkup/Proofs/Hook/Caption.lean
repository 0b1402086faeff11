/-
This file proves when a figure shows the credit that its title gives. The credit stands in
the caption, behind its text, and a figure whose caption has no text is written without a
caption. A title has a credit only if the marker is not at its start, but the text of the
caption is what stands in front of the marker without the blanks around it. So the credit
of a title with nothing but blanks in front of the marker is lost. No other part of a figure
can hold a footer: what authors write there is escaped, and the hook writes none.
-/

import BookMarkup.Proofs.Figure.Credit
import BookMarkup.Proofs.Hook.Figure
import BookMarkup.Tools.Known

namespace BookMarkup

namespace Hook

/-! ### Figures -/

variable {setting : Setting} {content : Text} {size : Option Image.Size} {title : Option Text}

/-- A figure whose caption has text shows the credit behind it. -/
theorem renderCredit_infix_figureMarkup
    (captioned : (Figure.splitCredit (title.getD [])).text ≠ []) :
    Figure.renderCredit (Figure.splitCredit (title.getD [])).credit <:+:
      figureMarkup setting content size title := by
  have inCaption : Figure.renderCredit (Figure.splitCredit (title.getD [])).credit <:+:
      captionMarkup setting.tools.renderPlain (Figure.splitCredit (title.getD [])) := by
    unfold captionMarkup
    rw [if_neg (by simpa using captioned)]
    exact ⟨_, _, rfl⟩
  refine inCaption.trans ?_
  unfold figureMarkup Figure.render
  exact ⟨_, _, rfl⟩

/-- A figure whose caption has no text is written as one without a title. -/
theorem figureMarkup_of_no_text (noText : (Figure.splitCredit (title.getD [])).text = []) :
    figureMarkup setting content size title = figureMarkup setting content size none := by
  have untitled : Figure.splitCredit ((none : Option Text).getD []) = ⟨[], none⟩ := rfl
  unfold figureMarkup captionMarkup figureClasses
  simp only [noText, untitled, List.isEmpty_nil, if_true]

/-- A figure without a title around a content without a footer shows none. -/
theorem no_footer_in_figureMarkup (footerless : Text.IsFreeOf "<footer>".toList content) :
    ¬ "<footer>".toList <:+: figureMarkup setting content size none := by
  have ending : Text.IsFreeOf "<footer>".toList "</figure>\n".toList :=
    Text.isFreeOf_of_closed (by decide) (by decide) (by decide)
  have figure := (((isBare_figureStart setting.options ⟨[], none⟩ size).no_footer.append
    footerless).append (isBare_figureMiddle size).no_footer).append ending
  intro inside
  rw [figureMarkup_eq] at inside
  exact absurd (List.infix_nil.mp (figure [] (by rwa [List.append_nil]))) (by decide)

/-- An image that is rendered and not dropped is a figure around a content without a footer. Neither
the content nor its size depends on the title. -/
theorem exists_figureMarkup {state : RenderState} {content url html : Text}
    {title : Option Text} (kept : Url.rejects setting.options.sanitize url = .ok false)
    (rendered : (image setting content url title state).result = .ok html) :
    ∃ body size, Text.IsFreeOf "<footer>".toList body ∧ ∀ other,
      (image setting content url other state).result =
        .ok (figureMarkup setting body size other) := by
  have still (size : Option Image.Size) : Text.IsFreeOf "<footer>".toList (Figure.renderImage
      (Html.escapeAttribute url) (alternativeText content) size setting.options.xhtml) :=
    isFreeOf_footer_renderImage (Html.isSealed_escapeAttribute url).2.1
      (Html.isSealed_escapeAttribute _).2.1 size setting.options.xhtml
  cases video : Video.isEmbeddable url with
  | true =>
    refine ⟨Figure.renderVideo url, none, (isBare_renderPlayer _).no_footer, fun other => ?_⟩
    exact congrArg Outcome.result (image_of_video content other state kept video)
  | false =>
    have probed : IsProbed setting.options url := ⟨kept, video⟩
    rcases probing : probeUrl setting url with (cause | error) | size
    · rw [image_of_unreadable content title state probed probing] at rendered
      split_ifs at rendered with strict
      refine ⟨_, none, still none, fun other => ?_⟩
      rw [image_of_unreadable content other state probed probing, if_neg strict]
      rfl
    · rw [image_of_escaped content title state probed probing] at rendered
      cases rendered
    · refine ⟨_, some size, still (some size), fun other => ?_⟩
      rw [image_of_size content other state probed probing]
      rfl

/-! ### The credit of a figure -/

/-- A figure shows its credit exactly if something visible stands in front of the marker in its
title. For all options and files, every state and every image or video that is not dropped as
unsafe and whose title gives a credit: the first marker is not at the start of the title, and the
markup holds the footer of the credit if and only if some character in front of the marker is
not blank. Otherwise the markup is the one of a figure without a title. -/
theorem figure_shows_credit_iff (setting : Setting) (state : RenderState) (content url : Text)
    (title : Option Text) (credit html : Text)
    (kept : Url.rejects setting.options.sanitize url = .ok false)
    (split : (Figure.splitCredit (title.getD [])).credit = some credit) (nonempty : credit ≠ [])
    (rendered : ((Call.image content url title).run setting state).result = .ok html) :
    ∃ place, 0 < place ∧ Figure.IsFirstMarker (title.getD []) place ∧
      (Figure.renderCredit (some credit) <:+: html ↔
        ∃ c ∈ (title.getD []).take place, isBlank c = false) ∧
      ((∀ c ∈ (title.getD []).take place, isBlank c = true) →
        ((Call.image content url none).run setting state).result = .ok html) := by
  have run : (image setting content url title state).result = .ok html := rendered
  obtain ⟨place, inside, first⟩ := Figure.exists_isFirstMarker_of_credit split
  have noText := Figure.text_splitCredit_eq_nil_iff inside first
  obtain ⟨body, size, footerless, figure⟩ := exists_figureMarkup kept run
  have written : figureMarkup setting body size title = html :=
    Except.ok.inj ((figure title).symm.trans run)
  refine ⟨place, inside, first, ⟨fun shown => ?_, fun visible => ?_⟩, fun blank => ?_⟩
  · by_contra hidden
    have blank : ∀ c ∈ (title.getD []).take place, isBlank c = true := fun c member =>
      Bool.of_not_eq_false fun visible => hidden ⟨c, member, visible⟩
    -- The footer of the credit would be a footer in a figure without a title.
    rw [← written, figureMarkup_of_no_text (noText.mpr blank)] at shown
    refine no_footer_in_figureMarkup footerless (List.IsInfix.trans ?_ shown)
    obtain ⟨head, rest, rfl⟩ := List.exists_cons_of_ne_nil nonempty
    exact ⟨[], _, (List.append_assoc _ _ _).symm⟩
  · obtain ⟨c, member, visible⟩ := visible
    have captioned : (Figure.splitCredit (title.getD [])).text ≠ [] := fun empty =>
      absurd (noText.mp empty c member) (Bool.eq_false_iff.mp visible)
    rw [← written, ← split]
    exact renderCredit_infix_figureMarkup captioned
  · rw [← written, figureMarkup_of_no_text (noText.mpr blank)]
    exact figure none

/-- A credit behind a text is shown, also for an image whose size cannot be read. -/
theorem figure_shows_credit_behind_text :
    let setting : Setting := ⟨{}, .ofFiles []⟩
    let title := "A map. Credit: J".toList
    Url.rejects setting.options.sanitize "gone.png".toList = .ok false ∧
      (Figure.splitCredit title).credit = some "J".toList ∧
      ∃ html, ((Call.image [] "gone.png".toList (some title)).run setting (.fresh 1)).result =
          .ok html ∧
        Figure.renderCredit (some "J".toList) <:+: html := by
  intro setting title
  have kept : Url.rejects setting.options.sanitize "gone.png".toList = .ok false := by decide
  have split : (Figure.splitCredit title).credit = some "J".toList := by decide
  obtain ⟨html, rendered⟩ : ∃ html, ((Call.image [] "gone.png".toList (some title)).run setting
    (.fresh 1)).result = .ok html := ⟨_, rfl⟩
  obtain ⟨place, inside, -, shows, -⟩ := figure_shows_credit_iff setting (.fresh 1) []
    "gone.png".toList (some title) "J".toList html kept split (by decide) rendered
  obtain ⟨before, rfl⟩ := Nat.exists_eq_succ_of_ne_zero (Nat.ne_of_gt inside)
  exact ⟨kept, split, html, rendered, shows.mpr ⟨'A', List.mem_cons_self, by decide⟩⟩

/-- A figure may drop the credit that its title gives. -/
theorem figure_may_drop_credit :
    ¬ ∀ (setting : Setting) (state : RenderState) (content url : Text) (title : Option Text)
      (credit html : Text), Url.rejects setting.options.sanitize url = .ok false →
      (Figure.splitCredit (title.getD [])).credit = some credit → credit ≠ [] →
      ((Call.image content url title).run setting state).result = .ok html →
      Figure.renderCredit (some credit) <:+: html := by
  intro always
  have shown := always ⟨{}, .ofFiles []⟩ (.fresh 1) [] "gone.png".toList
    (some " credit: J".toList) "J".toList _ (by decide) (by decide) (by decide) rfl
  rw [← Text.occursIn_iff (by decide)] at shown
  exact absurd shown (by decide +kernel)

end Hook

end BookMarkup
