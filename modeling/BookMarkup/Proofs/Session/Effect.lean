/-
This file says what a call does to the state of its renderer. The effect depends on the
call and the state alone: neither the options nor the files matter, and a call that
fails has the same effect as one that succeeds. A run of calls is the composition of
their effects, so whatever every effect preserves holds along the whole run.
-/

import BookMarkup.Proofs.Hook.Image

namespace BookMarkup

/-! ### What the hooks do to the state -/

namespace Hook

/-- A quote forgets the group before it is entered if its content starts with one. -/
theorem quote_snd (state : RenderState) (text : Text) :
    (quote state text).2 =
      ((if GroupMarker.opener.html.isPrefixOf text then state.discardGroup else state).enter
        .quote none).2 := by
  unfold quote Text.after?
  split_ifs <;> rfl

theorem taskItem_snd (state : RenderState) (xhtml : Bool) (text : Text) (checked : Bool) :
    (taskItem state xhtml text checked).2 =
      ((state.enter .checkbox none).2.enter .listItem none).2 := rfl

/-- A construct is entered whether its markup arises or fails to. -/
theorem attempt_state (construct : Construct) (markup : Except CharRef.LongNumber Text)
    (state : RenderState) :
    (attempt construct markup state).state = (state.enter construct none).2 := by
  cases markup <;> rfl

end Hook

/-! ### Calls -/

namespace Call

/-- What a call does to the state. -/
def effect : Call → RenderState → RenderState
  | .heading _ level, state => (state.enter .heading (some level)).2
  | .paragraph _, state => (state.enter .paragraph none).2
  | .quote content, state =>
    ((if GroupMarker.opener.html.isPrefixOf content then state.discardGroup else state).enter
      .quote none).2
  | .code _ _, state => (state.enter .code none).2
  | .html _, state => (state.enter .html none).2
  | .rule, state => (state.enter .rule none).2
  | .list _ _ _, state => (state.enter .list none).2
  | .listItem _, state => (state.enter .listItem none).2
  | .taskItem _ _, state => ((state.enter .checkbox none).2.enter .listItem none).2
  | .checkbox _, state => (state.enter .checkbox none).2
  | .table _, state => (state.enter .table none).2
  | .tableHead _, state | .tableBody _, state | .tableRow _, state
  | .tableCell _ _ _, state => state
  | .text _, state => (state.enter .text none).2
  | .emphasis _, state => (state.enter .emphasis none).2
  | .strong _, state => (state.enter .strong none).2
  | .strikethrough _, state => (state.enter .deleted none).2
  | .codeSpan _, state => (state.enter .codeSpan none).2
  | .lineBreak, state => (state.enter .lineBreak none).2
  | .inlineHtml _, state => (state.enter .inlineHtml none).2
  | .link _ _ _, state => (state.enter .link none).2
  | .image _ _ _, state => (state.enter .image none).2
  | .finalize _, state => state.finish.2

/-- Running a call has its effect on the state, under all options and files. -/
theorem run_state (setting : Setting) (call : Call) (state : RenderState) :
    (call.run setting state).state = call.effect state := by
  cases call with
  | quote content => exact Hook.quote_snd state content
  | taskItem content checked => exact Hook.taskItem_snd state setting.options.xhtml content checked
  | link content url title => exact Hook.attempt_state .link _ state
  | image content url title => exact Hook.image_state setting content url title state
  | _ => rfl

/-! ### Runs -/

/-- Running calls one after the other composes their effects. -/
theorem runAll_snd (setting : Setting) (calls : List Call) (state : RenderState) :
    (runAll setting calls state).2 = calls.foldl (fun before call => call.effect before) state := by
  induction calls generalizing state with
  | nil => rfl
  | cons first others inductionHypothesis =>
    rw [runAll, List.foldl_cons, inductionHypothesis, run_state]

/-- The outcomes of a run are those of its first part, then those of its second part. -/
theorem runAll_append (setting : Setting) (first second : List Call) (state : RenderState) :
    runAll setting (first ++ second) state =
      ((runAll setting first state).1 ++ (runAll setting second (runAll setting first state).2).1,
        (runAll setting second (runAll setting first state).2).2) := by
  induction first generalizing state with
  | nil => rfl
  | cons call others inductionHypothesis =>
    rw [List.cons_append, runAll, inductionHypothesis]
    rfl

/-- A run has one outcome for each call. -/
theorem length_runAll (setting : Setting) (calls : List Call) (state : RenderState) :
    (runAll setting calls state).1.length = calls.length := by
  induction calls generalizing state with
  | nil => rfl
  | cons first others inductionHypothesis =>
    rw [runAll, List.length_cons, inductionHypothesis, List.length_cons]

/-- The outcome of a call in a run is its outcome in the state that the earlier calls leave. -/
theorem runAll_getElem? (setting : Setting) (before : List Call) (call : Call)
    (after : List Call) (state : RenderState) :
    (runAll setting (before ++ call :: after) state).1[before.length]? =
      some (call.run setting (runAll setting before state).2) := by
  rw [runAll_append, List.getElem?_append_right (Nat.le_of_eq (length_runAll setting before state)),
    length_runAll, Nat.sub_self]
  rfl

end Call

end BookMarkup
