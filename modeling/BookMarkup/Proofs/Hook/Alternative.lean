/-
This file proves that alternative texts survive the hooks. The content of an image is
rendered before the image: its runs of text are escaped, the last two words of each are
joined, and tags are put around them. The image takes the tags and the joins out again and
escapes once more. Each step undoes exactly what was done, also where two runs meet,
because every reference that escaping writes or keeps ends in its own run. So what is left
are the runs, each escaped once.
-/

import BookMarkup.Document
import BookMarkup.Proofs.Footnote.Leading
import BookMarkup.Proofs.Hook.Figure
import BookMarkup.Proofs.Html.Escaped
import BookMarkup.Proofs.Html.Tag
import BookMarkup.Tools.Known

namespace BookMarkup

namespace Alternative

open Markdown Html

/-! ### Phrases -/

mutual

/-- The runs of text in an inline construct that is one, or emphasised, strong or struck-out
content of such constructs. -/
def leaves? : Inline → Option (List Text)
  | .text source => some [source]
  | .emphasis children | .strong children | .strikethrough children => allLeaves? children
  | _ => none

/-- The runs of text in several inline constructs. -/
def allLeaves? : List Inline → Option (List Text)
  | [] => some []
  | first :: others => do
    let front ← leaves? first
    let rest ← allLeaves? others
    return front ++ rest

end

/-- Whether a run of text holds neither a footnote mark nor a no-break space. -/
def IsPlain (text : Text) : Prop :=
  ¬ Footnote.bracket <:+: text ∧ ¬ noBreakSpace <:+: text

/-! ### Runs of text -/

theorem interpolateMarks_eq_self {text : Text} (absent : ¬ Footnote.bracket <:+: text) :
    Footnote.interpolateMarks text = text := by
  have silent (tail : Text) (some' : tail ≠ []) (inside : tail <:+ text) :
      Footnote.markPattern (tail ++ []) = 0 := by
    rw [List.append_nil]
    exact Footnote.markPattern_eq_zero fun starts =>
      absent (starts.isInfix.trans inside.isInfix)
  have kept : Footnote.interpolateMarks (text ++ []) = text ++ Footnote.interpolateMarks [] :=
    Text.substitute_append_of_silent silent
  rw [List.append_nil] at kept
  exact kept.trans (List.append_nil text)

theorem textMarkup_of_isPlain {text : Text} (plain : IsPlain text) :
    Hook.textMarkup text = Footnote.shownRun text := by
  have escaped : ¬ Footnote.bracket <:+: escapeContent text :=
    not_infix_escapeContent (by decide) (by decide) plain.1
  refine interpolateMarks_eq_self ?_
  rcases Text.joinLastWords_cases (escapeContent text) with same | changed
  · rwa [same]
  · rw [changed]
    exact Footnote.not_infix_joinLastSpace escaped

theorem less_not_mem_shownRun (text : Text) : '<' ∉ Footnote.shownRun text := fun member =>
  absurd (Footnote.not_reserved_of_mem_shownRun member) (by decide)

/-- Taking the joins out of runs in a row leaves the escaped runs. -/
theorem replaceAll_flatMap_shownRun {texts : List Text} (plain : ∀ text ∈ texts, IsPlain text) :
    Text.replaceAll noBreakSpace [' '] (texts.flatMap Footnote.shownRun) =
      texts.flatMap escapeContent := by
  induction texts with
  | nil => rfl
  | cons text others inductionHypothesis =>
    obtain ⟨plainText, plainOthers⟩ := List.forall_mem_cons.mp plain
    have apart := replaceAll_joinLastWords (isWhole_escapeKeeping isReservedInContent text)
      (noBreakSpace_not_infix_escapeKeeping isReservedInContent plainText.2)
      (others.flatMap Footnote.shownRun)
    rw [List.flatMap_cons, List.flatMap_cons, ← inductionHypothesis plainOthers]
    exact apart

/-! ### Rendered phrases -/

/-- Whether rendering succeeds with markup that shows some runs of text between its tags. -/
def Shows (texts : List Text) (outcome : Outcome Text) : Prop :=
  ∃ markup, outcome.result = .ok markup ∧
    ∀ rest, stripTags (markup ++ rest) = texts.flatMap Footnote.shownRun ++ stripTags rest

theorem result_bind {First Second : Type} {first : Render First} {next : First → Render Second}
    {state : RenderState} {value : First} (done : (first state).result = .ok value) :
    ((first >>= next) state).result = (next value (first state).state).result := by
  show (Render.andThen first next state).result = _
  unfold Render.andThen
  simp only [done]

theorem shows_text {text : Text} (plain : IsPlain text) (setting : Setting) (state : RenderState) :
    Shows [text] ((Call.text text).run setting state) := by
  refine ⟨Footnote.shownRun text, congrArg Except.ok (textMarkup_of_isPlain plain), fun rest => ?_⟩
  have noTag : ∀ c ∈ Footnote.shownRun text, c ≠ '<' := by
    rintro c member rfl
    exact less_not_mem_shownRun text member
  rw [stripTags_append_of_plain noTag, List.flatMap_singleton]

/-- An element shows what its content shows. -/
theorem shows_element {texts : List Text} {state : RenderState} {content : Render Text}
    (shown : Shows texts (content state)) (hook : Text → Render Text) {name : Text}
    (named : name ≠ []) (noEnd : '>' ∉ name)
    (written : ∀ markup state, (hook markup state).result =
      .ok ('<' :: (name ++ '>' :: (markup ++ ('<' :: ('/' :: name ++ ['>'])))))) :
    Shows texts ((content >>= hook) state) := by
  obtain ⟨markup, done, between⟩ := shown
  refine ⟨_, (result_bind done).trans (written markup _), fun rest => ?_⟩
  have inside : '>' ∉ '/' :: name := List.not_mem_cons_of_ne_of_not_mem (by decide) noEnd
  simp only [List.cons_append, List.append_assoc]
  rw [stripTags_tag named noEnd, between]
  exact congrArg _ (stripTags_tag (List.cons_ne_nil _ _) inside rest)

theorem shows_append {texts others : List Text} {state : RenderState} {first second : Render Text}
    (front : Shows texts (first state)) (back : Shows others (second (first state).state)) :
    Shows (texts ++ others)
      ((do
        let markup ← first
        let rest ← second
        pure (markup ++ rest)) state) := by
  obtain ⟨markup, done, between⟩ := front
  obtain ⟨behind, doneBehind, betweenBehind⟩ := back
  refine ⟨markup ++ behind, ?_, fun rest => ?_⟩
  · rw [result_bind done, result_bind doneBehind]
    rfl
  · rw [List.append_assoc, between, betweenBehind, List.flatMap_append, List.append_assoc]

mutual

/-- A phrase shows its leaves. -/
theorem shows_inline (setting : Setting) (inline : Inline) {texts : List Text}
    (spelled : leaves? inline = some texts) (plain : ∀ text ∈ texts, IsPlain text)
    (state : RenderState) : Shows texts (Document.renderInline setting inline state) := by
  match inline with
  | .text source =>
    cases spelled
    exact shows_text (plain source List.mem_cons_self) setting state
  | .emphasis children =>
    have named : "em".toList ≠ [] := by decide
    exact shows_element (shows_inlines setting children spelled plain state)
      (fun content => Call.run setting (.emphasis content)) named (by decide) fun _ _ => rfl
  | .strong children =>
    have named : "strong".toList ≠ [] := by decide
    exact shows_element (shows_inlines setting children spelled plain state)
      (fun content => Call.run setting (.strong content)) named (by decide) fun _ _ => rfl
  | .strikethrough children =>
    have named : "del".toList ≠ [] := by decide
    exact shows_element (shows_inlines setting children spelled plain state)
      (fun content => Call.run setting (.strikethrough content)) named (by decide) fun _ _ => rfl

/-- Phrases in a row show their leaves. -/
theorem shows_inlines (setting : Setting) (inlines : List Inline) {texts : List Text}
    (spelled : allLeaves? inlines = some texts) (plain : ∀ text ∈ texts, IsPlain text)
    (state : RenderState) : Shows texts (Document.renderInlines setting inlines state) := by
  match inlines with
  | [] =>
    cases spelled
    exact ⟨[], rfl, fun rest => rfl⟩
  | first :: others =>
    simp only [allLeaves?, Option.bind_eq_bind, Option.bind_eq_some_iff] at spelled
    obtain ⟨front, spelledFirst, back, spelledOthers, equal⟩ := spelled
    cases equal
    obtain ⟨plainFront, plainBack⟩ := List.forall_mem_append.mp plain
    exact shows_append (shows_inline setting first spelledFirst plainFront state)
      (shows_inlines setting others spelledOthers plainBack _)

end

/-! ### Alternative texts -/

/-- The alternative text of an image is that of its leaves, each escaped once. -/
theorem alternativeText_of_shows {texts : List Text} (plain : ∀ text ∈ texts, IsPlain text)
    {markup : Text} (shown : ∀ rest, stripTags (markup ++ rest) =
      texts.flatMap Footnote.shownRun ++ stripTags rest) :
    Hook.alternativeText markup = texts.flatMap escapeAttribute := by
  have stripped : stripTags markup = texts.flatMap Footnote.shownRun := by
    have whole := shown []
    rw [List.append_nil] at whole
    exact whole.trans (List.append_nil _)
  rw [Hook.alternativeText, stripped, replaceAll_flatMap_shownRun plain,
    escapeAttribute_flatMap_escapeContent]

/-- The content of an image that consists of runs of text and of emphasised, strong or struck-out
phrases becomes the runs in a row, each escaped once. They are all that is left of an image that
is dropped as unsafe, and the alternative text of one that is shown as an image, whatever its URL,
title and size. A video is shown as a player instead, in a figure without an image element. What
the caption is rendered to is not looked at. -/
theorem alternative_text_spells_leaves (setting : Setting) (state : RenderState)
    {children : List Inline} {texts : List Text} (spelled : allLeaves? children = some texts)
    (plain : ∀ text ∈ texts, ¬ "[^".toList <:+: text ∧ ¬ "&nbsp;".toList <:+: text) (url : Text)
    (title : Option Text) :
    let shown := texts.flatMap escapeAttribute
    let result := (Document.renderInline setting (.image children url title) state).result
    (Url.rejects setting.options.sanitize url = .ok true → result = .ok shown) ∧
    (Url.rejects setting.options.sanitize url = .ok false → Video.isEmbeddable url = true →
      result = .ok (Hook.videoMarkup setting url title) ∧
        ∃ front, Text.IsFreeOf "<img".toList front ∧
          result = .ok (front ++ Hook.figureEnd setting title)) ∧
    (Hook.IsProbed setting.options url → ∀ html, result = .ok html →
      ∃ front rest, Text.IsFreeOf "<img".toList front ∧ Text.IsFreeOf "<img".toList rest ∧
        html = front ++ "<img alt=\"".toList ++ shown ++ "\" src=\"".toList ++
          escapeAttribute url ++ ['"'] ++ rest ++ Hook.figureEnd setting title) := by
  intro shown result
  obtain ⟨content, done, between⟩ := shows_inlines setting children spelled plain state
  have alternative : Hook.alternativeText content = shown := alternativeText_of_shows plain between
  obtain ⟨later, run⟩ : ∃ later, result = (Hook.image setting content url title later).result :=
    ⟨_, result_bind done⟩
  rw [run]
  refine ⟨fun dropped => ?_, fun kept video => ?_, fun probed html rendered => ?_⟩
  · rw [Hook.image_of_dropped content title later dropped, alternative]
  · obtain ⟨front, bare, shape⟩ := Hook.videoMarkup_shape setting url title
    rw [Hook.image_of_video content title later kept video]
    exact ⟨rfl, front, bare.no_image, congrArg Except.ok shape⟩
  · obtain ⟨size, rfl⟩ := Hook.exists_imageMarkup content title later probed rendered
    obtain ⟨front, rest, bareFront, bareRest, shape⟩ :=
      Hook.imageMarkup_shape setting content url size title
    rw [alternative] at shape
    exact ⟨front, rest, bareFront.no_image, bareRest.no_image, shape⟩

/-- References, reserved characters, quotes and joined words in nested phrases: an image shows
them once escaped, and one that is dropped leaves them. -/
theorem alternative_text_of_nested_phrases :
    let children : List Inline :=
      [.text "Fish & \"chips\"".toList,
        .strong [.text "&copy".toList, .emphasis [.text "; a<b c".toList]]]
    let texts := ["Fish & \"chips\"".toList, "&copy".toList, "; a<b c".toList]
    let shown := "Fish &amp; &quot;chips&quot;&amp;copy; a&lt;b c".toList
    let careful : Setting := ⟨{ sanitize := true }, .ofFiles []⟩
    let result := fun setting url =>
      (Document.renderInline setting (.image children url none) (.fresh 1)).result
    allLeaves? children = some texts ∧
    (∀ text ∈ texts, ¬ "[^".toList <:+: text ∧ ¬ "&nbsp;".toList <:+: text) ∧
    result careful "data:x".toList = .ok shown ∧
    ∃ front rest, Text.IsFreeOf "<img".toList front ∧ Text.IsFreeOf "<img".toList rest ∧
      result careful "gone.png".toList =
        .ok (front ++ "<img alt=\"".toList ++ shown ++ "\" src=\"".toList ++ "gone.png".toList ++
          ['"'] ++ rest ++ "</figure>\n".toList) := by
  intro children texts shown careful result
  have spelled : allLeaves? children = some texts := by decide
  have plain : ∀ text ∈ texts, ¬ "[^".toList <:+: text ∧ ¬ "&nbsp;".toList <:+: text := by decide
  have dropped : Url.rejects careful.options.sanitize "data:x".toList = .ok true := by decide
  have probed : Hook.IsProbed careful.options "gone.png".toList :=
    ⟨by decide, by decide⟩
  obtain ⟨leaves, -, -⟩ :=
    alternative_text_spells_leaves careful (.fresh 1) spelled plain "data:x".toList none
  obtain ⟨-, -, figure⟩ :=
    alternative_text_spells_leaves careful (.fresh 1) spelled plain "gone.png".toList none
  obtain ⟨html, rendered⟩ : ∃ html, result careful "gone.png".toList = .ok html := ⟨_, rfl⟩
  obtain ⟨front, rest, inFront, inRest, rfl⟩ := figure probed html rendered
  exact ⟨spelled, plain, leaves dropped, front, rest, inFront, inRest, rendered⟩

end Alternative

end BookMarkup
