/-
This file proves which paragraphs of running text are wrapped. A paragraph is taken for a
block that needs no wrapping if its first visible character opens a tag other than those
of emphasised, struck-out or strong content and of links. Code spans and footnote marks
open other tags, and a link that leaves its content may show anything. So the first
phrase that shows something decides, and all paragraphs that start in another way are
wrapped.
-/

import BookMarkup.Proofs.Footnote.Leading
import BookMarkup.Proofs.Hook.Link

namespace BookMarkup

namespace Wrapped

/-! ### Phrases -/

/-- Whether a call is for a phrase: a run of text that shows something, emphasised, strong or
struck-out content, a code span or a link. -/
def isPhrase : Call → Bool
  | .text source => !source.all isBlank
  | .emphasis _ | .strong _ | .strikethrough _ | .codeSpan _ | .link _ _ _ => true
  | _ => false

/-- What a call with some outcome wrote. A call that failed wrote nothing. -/
def written (outcome : Outcome Text) : Text :=
  outcome.result.toOption.getD []

/-- What a call writes. Phrases write the same in all states. -/
def output (setting : Setting) (call : Call) : Text :=
  written (call.run setting (.fresh 1))

theorem written_of_isPhrase {call : Call} (phrase : isPhrase call = true) (setting : Setting)
    (state : RenderState) : written (call.run setting state) = output setting call := by
  cases call with
  | link content url title =>
    have same (state : RenderState) := Hook.result_attempt_link (Hook.linkMarkup content title
      (Url.clean setting.options.sanitize setting.options.baseUrl url)) state
    exact congrArg (fun result => result.toOption.getD [])
      ((same state).trans (same (.fresh 1)).symm)
  | _ => first | rfl | cases phrase

/-- Phrases in a row write what each of them writes. -/
theorem flatMap_written_runAll {calls : List Call} (phrases : ∀ call ∈ calls, isPhrase call = true)
    (setting : Setting) (state : RenderState) :
    (Call.runAll setting calls state).1.flatMap written = calls.flatMap (output setting) := by
  induction calls generalizing state with
  | nil => rfl
  | cons call others inductionHypothesis =>
    obtain ⟨phrase, later⟩ := List.forall_mem_cons.mp phrases
    rw [Call.runAll, List.flatMap_cons, List.flatMap_cons, written_of_isPhrase phrase,
      inductionHypothesis later]

/-! ### The first phrase that shows something -/

/-- What a link leaves if it points nowhere: its content if that holds an embedded player or the
target is rejected, and nothing if the target cannot be checked. -/
def left? (options : Options) (content url : Text) : Option Text :=
  if Text.occursIn "iframe".toList content then some content
  else
    match Url.clean options.sanitize options.baseUrl url with
    | .error _ => some []
    | .ok none => some content
    | .ok (some _) => none

theorem output_link (setting : Setting) (content url : Text) (title : Option Text) :
    match left? setting.options content url with
    | some shown => output setting (.link content url title) = shown
    | none => ∃ rest, output setting (.link content url title) = "<a href=\"".toList ++ rest := by
  have writes := congrArg (fun result => result.toOption.getD [])
    (Hook.result_attempt_link (Hook.linkMarkup content title
      (Url.clean setting.options.sanitize setting.options.baseUrl url)) (.fresh 1))
  change output setting (.link content url title) = _ at writes
  unfold left?
  by_cases player : "iframe".toList <:+: content
  · rw [Hook.linkMarkup_of_player player] at writes
    rw [if_pos (Hook.holdsPlayer_iff.mpr player)]
    exact writes
  · rw [if_neg (mt Hook.holdsPlayer_iff.mp player)]
    rcases cleaned : Url.clean setting.options.sanitize setting.options.baseUrl url with
      number | (_ | address)
    · rw [cleaned, Hook.linkMarkup_of_long player] at writes
      exact writes
    · rw [cleaned, Hook.linkMarkup_of_rejected] at writes
      exact writes
    · rw [cleaned, Hook.linkMarkup_of_kept player] at writes
      obtain ⟨rest, starts⟩ := Hook.pointTo_starts content address title
      rw [List.append_assoc, List.append_assoc] at starts
      exact ⟨_, writes.trans starts⟩

/-- Whether phrases in a row are taken for a block. Code spans are, and runs of text that start with
a footnote mark; emphasised, strong and struck-out content and links that point somewhere are not.
A link that points nowhere is taken for what it leaves and the phrases behind it show. -/
def opensBlock (setting : Setting) : List Call → Bool
  | [] => false
  | .codeSpan _ :: _ => true
  | .text source :: _ => Footnote.startsWithMark source
  | .link content url _ :: others =>
    match left? setting.options content url with
    | some shown =>
      if shown.all isBlank then opensBlock setting others
      else Hook.isRawBlock (shown ++ others.flatMap (output setting))
    | none => false
  | _ :: _ => false

theorem isRawBlock_textMarkup {source : Text} (visible : source.all isBlank = false) (rest : Text) :
    Hook.isRawBlock (Hook.textMarkup source ++ rest) = Footnote.startsWithMark source := by
  obtain ⟨blanks, after, blank, rendered, marked, unmarked⟩ := Footnote.textMarkup_starts visible
  rw [rendered, List.append_assoc, Hook.isRawBlock_append_of_blanks blank]
  cases starts : Footnote.startsWithMark source with
  | true =>
    obtain ⟨others, rfl⟩ := marked starts
    rw [List.append_assoc]
    exact Hook.isRawBlock_otherTag (by decide) _
  | false =>
    obtain ⟨first, others, rfl, shows, other⟩ := unmarked starts
    exact Hook.isRawBlock_cons shows other (others ++ rest)

/-- A paragraph of phrases is taken for a block if the phrases are. -/
theorem isRawBlock_flatMap_output (setting : Setting) {calls : List Call}
    (phrases : ∀ call ∈ calls, isPhrase call = true) :
    Hook.isRawBlock (calls.flatMap (output setting)) = opensBlock setting calls := by
  induction calls with
  | nil => rfl
  | cons call others inductionHypothesis =>
    obtain ⟨phrase, later⟩ := List.forall_mem_cons.mp phrases
    rw [List.flatMap_cons]
    cases call with
    | text source => exact isRawBlock_textMarkup (by simpa [isPhrase] using phrase) _
    | codeSpan source =>
      show Hook.isRawBlock ("<code>".toList ++ _ ++ "</code>".toList ++ _) = true
      rw [List.append_assoc, List.append_assoc]
      exact Hook.isRawBlock_otherTag (by decide) _
    | emphasis content =>
      exact Hook.isRawBlock_element "<em>".toList (by decide) content "</em>".toList _
    | strong content =>
      exact Hook.isRawBlock_element "<strong>".toList (by decide) content "</strong>".toList _
    | strikethrough content =>
      exact Hook.isRawBlock_element "<del>".toList (by decide) content "</del>".toList _
    | link content url title =>
      have writes := output_link setting content url title
      unfold opensBlock
      cases left : left? setting.options content url with
      | none =>
        rw [left] at writes
        obtain ⟨rest, starts⟩ := writes
        rw [starts, List.append_assoc]
        exact Hook.isRawBlock_phraseTag (by decide) _
      | some shown =>
        rw [left] at writes
        simp only at writes ⊢
        rw [writes]
        -- A link that leaves blanks only passes the question on to the phrases behind it.
        split_ifs with blank
        · rw [Hook.isRawBlock_append_of_blanks (List.all_eq_true.mp blank)]
          exact inductionHypothesis later
        · rfl
    | _ => cases phrase

/-! ### Paragraphs -/

theorem wrapped_ne (content : Text) : "<p>".toList ++ content ++ "</p>\n".toList ≠ content := by
  have sizes : "<p>".toList.length = 3 := rfl
  intro equal
  have same := congrArg List.length equal
  rw [List.length_append, List.length_append, sizes] at same
  omega

/-- A paragraph of phrases that is no note is wrapped exactly if the phrases are not taken for a
block; otherwise it is passed through. -/
theorem paragraph_wraps_phrases_iff (setting : Setting) (before later : RenderState)
    {calls : List Call} (phrases : ∀ call ∈ calls, isPhrase call = true) :
    let content := (Call.runAll setting calls before).1.flatMap written
    let marker := markerHtml (later.enter .paragraph none).1
    let result := ((Call.paragraph content).run setting later).result
    Footnote.isNote content = false →
      (result = .ok (marker ++ ("<p>".toList ++ content ++ "</p>\n".toList)) ↔
        opensBlock setting calls = false) ∧
      (opensBlock setting calls = true → result = .ok (marker ++ content)) := by
  intro content marker result noNote
  have taken : Hook.isRawBlock content = opensBlock setting calls := by
    rw [← isRawBlock_flatMap_output setting phrases,
      ← flatMap_written_runAll phrases setting before]
  have rendered : result = .ok (marker ++ Hook.paragraphMarkup content) := rfl
  cases opens : opensBlock setting calls with
  | true =>
    rw [opens] at taken
    have passed : Hook.paragraphMarkup content = content := by
      rw [Hook.paragraphMarkup, if_pos taken]
    rw [rendered, passed]
    refine ⟨iff_of_false (fun equal => ?_) (by decide), fun _ => rfl⟩
    exact wrapped_ne content (List.append_cancel_left (Except.ok.inj equal)).symm
  | false =>
    rw [opens] at taken
    have wrapped : Hook.paragraphMarkup content =
        "<p>".toList ++ content ++ "</p>\n".toList := by
      rw [Hook.paragraphMarkup, taken, noNote]
      rfl
    rw [rendered, wrapped]
    exact ⟨iff_of_true rfl rfl, fun equal => by cases equal⟩

/-- Behind a rejected link that shows nothing, brackets that a parenthesis follows are no footnote
mark, so the paragraph is wrapped. -/
theorem paragraph_behind_blank_link_is_wrapped :
    let setting : Setting := ⟨{ sanitize := true }, .ofFiles []⟩
    let calls : List Call := [.link " ".toList "javascript:x".toList none,
      .text "[^1](a) of".toList, .codeSpan "x".toList]
    let content := " [^1](a)&nbsp;of<code>x</code>".toList
    (∀ call ∈ calls, isPhrase call = true) ∧
    (Call.runAll setting calls (.fresh 1)).1.flatMap written = content ∧
    ((Call.paragraph content).run setting (.fresh 1)).result =
      .ok ("<div class=\"paragraphs\">".toList ++
        ("<p>".toList ++ content ++ "</p>\n".toList)) := by
  intro setting calls content
  have phrases : ∀ call ∈ calls, isPhrase call = true := by decide
  have spelled : (Call.runAll setting calls (.fresh 1)).1.flatMap written = content := by
    decide +kernel
  have opens : opensBlock setting calls = false := by decide +kernel
  have wraps := paragraph_wraps_phrases_iff setting (.fresh 1) (.fresh 1) phrases
  rw [spelled] at wraps
  exact ⟨phrases, spelled, (wraps (by decide)).1.mpr opens⟩

/-- Not every paragraph of phrases is wrapped: one that starts with a code span is not. -/
theorem paragraph_of_phrases_may_not_be_wrapped :
    ¬ ∀ (setting : Setting) (before later : RenderState) (calls : List Call), calls ≠ [] →
      (∀ call ∈ calls, isPhrase call = true) →
      let content := (Call.runAll setting calls before).1.flatMap written
      Footnote.isNote content = false →
      ((Call.paragraph content).run setting later).result =
        .ok (markerHtml (later.enter .paragraph none).1 ++
          ("<p>".toList ++ content ++ "</p>\n".toList)) := by
  intro always
  have wrapped := always ⟨{}, .ofFiles []⟩ (.fresh 1) (.fresh 1) [.codeSpan "x".toList]
    (by decide) (by decide) (by decide)
  exact absurd wrapped (by decide)

end Wrapped

end BookMarkup
