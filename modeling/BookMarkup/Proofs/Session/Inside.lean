/-
This file proves that what stands inside of blocks never influences the blocks. A session
is run twice, once as it is and once without some of the calls for inline constructs, items
of lists and parts of tables. The two runs meet the same states up to the construct
rendered last, and no hook looks at that: the calls that remain result in the same markup
or the same failure with the same warnings.

A call that fails is no exception, because it changes the state like one that succeeds.
-/

import BookMarkup.Proofs.Session.Effect
import BookMarkup.Tools.Known

namespace BookMarkup

/-! ### The construct rendered last -/

namespace RenderState

/-- A state with another construct rendered last. -/
def withLast (state : RenderState) (last : Option Construct) : RenderState :=
  { state with last }

/-- Entering a construct does not depend on the one before it. -/
theorem enter_withLast (state : RenderState) (last : Option Construct) (construct : Construct)
    (level : Option Int) :
    (state.withLast last).enter construct level = state.enter construct level := by
  unfold enter count
  split_ifs <;> rfl

end RenderState

namespace Call

/-- Whether a call renders something inside of a block: an inline construct, an item of a list or a
part of a table. -/
def isInside : Call → Bool
  | .text _ | .emphasis _ | .strong _ | .strikethrough _ | .codeSpan _ | .lineBreak
  | .inlineHtml _ | .link _ _ _ | .image _ _ _ | .listItem _ | .taskItem _ _ | .checkbox _
  | .tableHead _ | .tableBody _ | .tableRow _ | .tableCell _ _ _ => true
  | .heading _ _ | .paragraph _ | .quote _ | .code _ _ | .html _ | .rule | .list _ _ _
  | .table _ | .finalize _ => false

/-- A call inside of a block changes at most the construct rendered last. -/
theorem effect_of_isInside {call : Call} (inside : call.isInside = true) (state : RenderState) :
    ∃ last, call.effect state = state.withLast last := by
  have entered (construct : Construct) (inside : construct.isBlock = false) :
      (state.enter construct none).2 = state.withLast (some construct) := by
    rw [state.enter_of_not_isBlock construct none inside]
    rfl
  cases call with
  | taskItem content checked =>
    refine ⟨some .listItem, ?_⟩
    rw [effect, entered .checkbox rfl, RenderState.enter_withLast, entered .listItem rfl]
  | tableHead | tableBody | tableRow | tableCell => exact ⟨state.last, rfl⟩
  | heading | paragraph | quote | code | html | rule | list | table | finalize => cases inside
  | _ => exact ⟨_, entered _ rfl⟩

end Call

/-! ### Outcomes -/

namespace Outcome

/-- What a reader sees of an outcome: the markup or the failure, and the warnings. -/
def seen (outcome : Outcome Text) : Except Failure Text × List Warning :=
  (outcome.result, outcome.warnings)

/-- Whether two outcomes differ at most in the construct rendered last. -/
def Agree (first second : Outcome Text) : Prop :=
  first.seen = second.seen ∧ ∃ last, first.state = second.state.withLast last

theorem Agree.of_eq {first second : Outcome Text} (equal : first = second) : first.Agree second :=
  ⟨congrArg seen equal, second.state.last, congrArg Outcome.state equal⟩

end Outcome

namespace Hook

variable (state : RenderState) (last : Option Construct)

theorem emit_withLast (construct : Construct) (markup : Text) :
    emit (state.withLast last) construct markup = emit state construct markup := by
  rw [emit, emit, RenderState.enter_withLast]

theorem heading_withLast (text : Text) (level : Int) :
    heading (state.withLast last) text level = heading state text level := by
  rw [heading, heading, RenderState.enter_withLast]

theorem taskItem_withLast (xhtml : Bool) (text : Text) (checked : Bool) :
    taskItem (state.withLast last) xhtml text checked = taskItem state xhtml text checked := by
  rw [taskItem, taskItem, checkbox, checkbox, emit_withLast]

/-- A quote that discards the group does so in both states. -/
theorem quote_withLast (text : Text) :
    quote (state.withLast last) text = quote state text := by
  have discarded : (state.withLast last).discardGroup = state.discardGroup.withLast last := rfl
  unfold quote
  cases Text.after? GroupMarker.opener.html text with
  | none => simp only [RenderState.enter_withLast]
  | some rest => simp only [discarded, RenderState.enter_withLast]

theorem attempt_withLast (construct : Construct) (markup : Except CharRef.LongNumber Text) :
    attempt construct markup (state.withLast last) = attempt construct markup state := by
  rw [attempt, attempt, RenderState.enter_withLast]

theorem image_withLast (setting : Setting) (content url : Text) (title : Option Text) :
    image setting content url title (state.withLast last) =
      image setting content url title state := by
  rw [image, image, RenderState.enter_withLast]

end Hook

namespace Call

theorem sure_of_eq {hook : RenderState → Text × RenderState} {first second : RenderState}
    (equal : hook first = hook second) : (sure hook first).Agree (sure hook second) :=
  .of_eq (by rw [sure, sure, equal])

/-- Up to the construct rendered last, the outcome of a call does not depend on it. -/
theorem run_withLast (setting : Setting) (call : Call) (state : RenderState)
    (last : Option Construct) :
    (call.run setting (state.withLast last)).Agree (call.run setting state) := by
  cases call with
  | heading content level => exact sure_of_eq (Hook.heading_withLast state last content level)
  | quote content => exact sure_of_eq (Hook.quote_withLast state last content)
  | taskItem content checked =>
    exact sure_of_eq (Hook.taskItem_withLast state last setting.options.xhtml content checked)
  | link content url title => exact .of_eq (Hook.attempt_withLast state last .link _)
  | image content url title =>
    exact .of_eq (Hook.image_withLast state last setting content url title)
  | tableHead | tableBody | tableRow | tableCell | finalize => exact ⟨rfl, last, rfl⟩
  | _ => exact sure_of_eq (Hook.emit_withLast state last _ _)

/-! ### Two runs -/

/-- The elements that are not marked. -/
def unmarked {Element : Type} (elements : List (Element × Bool)) : List Element :=
  elements.filterMap fun (element, marked) => if marked then none else some element

theorem unmarked_cons_true {Element : Type} (element : Element) (others : List (Element × Bool)) :
    unmarked ((element, true) :: others) = unmarked others := rfl

theorem unmarked_cons_false {Element : Type} (element : Element) (others : List (Element × Bool)) :
    unmarked ((element, false) :: others) = element :: unmarked others := rfl

/-- What the calls of a run show that are not marked, and the state at the end, compared to the run
of these calls alone from a state that differs in the construct rendered last. -/
theorem runAll_unmarked (setting : Setting) (calls : List (Call × Bool))
    (inside : ∀ call, (call, true) ∈ calls → call.isInside = true) (state : RenderState)
    (last : Option Construct) :
    (runAll setting (unmarked calls) (state.withLast last)).1.map Outcome.seen =
        (unmarked ((runAll setting (calls.map Prod.fst) state).1.zip (calls.map Prod.snd))).map
          Outcome.seen ∧
      ∃ other, (runAll setting (unmarked calls) (state.withLast last)).2 =
        (runAll setting (calls.map Prod.fst) state).2.withLast other := by
  induction calls generalizing state last with
  | nil => exact ⟨rfl, last, rfl⟩
  | cons first others inductionHypothesis =>
    obtain ⟨call, marked⟩ := first
    have inOthers (call : Call) (member : (call, true) ∈ others) : call.isInside = true :=
      inside call (List.mem_cons_of_mem _ member)
    simp only [List.map_cons, runAll, List.zip_cons_cons]
    cases marked with
    | true =>
      -- The marked call leaves a state that differs in the last construct alone.
      obtain ⟨between, after⟩ := effect_of_isInside (inside call List.mem_cons_self) state
      rw [unmarked_cons_true, unmarked_cons_true, run_state, after]
      exact inductionHypothesis inOthers (state.withLast between) last
    | false =>
      obtain ⟨seen, between, after⟩ := run_withLast setting call state last
      obtain ⟨rest, final⟩ :=
        inductionHypothesis inOthers (call.run setting state).state between
      rw [unmarked_cons_false, unmarked_cons_false, runAll, after]
      exact ⟨by rw [List.map_cons, List.map_cons, seen, rest], final⟩

/-- Calls inside of blocks may be left out of a session, also failing ones: every other call
results in the same markup or failure with the same warnings, and the state at the end is the same
up to the construct rendered last. -/
theorem calls_inside_leave_others_alone (setting : Setting) (calls : List (Call × Bool))
    (inside : ∀ call, (call, true) ∈ calls → call.isInside = true) :
    let whole := runAll setting (calls.map Prod.fst) (.fresh setting.options.chapter)
    let thinned := runAll setting (unmarked calls) (.fresh setting.options.chapter)
    thinned.1.map Outcome.seen =
        (unmarked (whole.1.zip (calls.map Prod.snd))).map Outcome.seen ∧
      ∃ last, thinned.2 = { whole.2 with last } :=
  runAll_unmarked setting calls inside (.fresh setting.options.chapter) none

/-- A session with an image that fails. The calls to leave out are marked. -/
def illustrated : List (Call × Bool) :=
  [(.heading "One".toList 2, false), (.text "first".toList, true),
    (.paragraph "first".toList, false), (.checkbox true, false), (.emphasis "done".toList, true),
    (.image [] "gone.png".toList none, true), (.paragraph "second".toList, false),
    (.table [], false)]

theorem failing_image_leaves_others_alone :
    let setting : Setting := ⟨{ failOnResourceErrors := true }, .ofFiles []⟩
    let whole := runAll setting (illustrated.map Prod.fst) (.fresh setting.options.chapter)
    let thinned := runAll setting (unmarked illustrated) (.fresh setting.options.chapter)
    (∀ call, (call, true) ∈ illustrated → call.isInside = true) ∧
      (∃ failure, whole.1[5]?.map Outcome.result = some (.error failure)) ∧
      thinned.1.map Outcome.seen =
        (unmarked (whole.1.zip (illustrated.map Prod.snd))).map Outcome.seen ∧
      ∃ last, thinned.2 = { whole.2 with last } := by
  intro setting whole thinned
  have inside : ∀ call, (call, true) ∈ illustrated → call.isInside = true := by
    intro call member
    simp only [illustrated, List.mem_cons, Prod.mk.injEq, Bool.true_eq_false, and_false, and_true,
      List.not_mem_nil, or_false, false_or] at member
    rcases member with rfl | rfl | rfl <;> rfl
  have fails : whole.1[5]?.map Outcome.result =
      some (.error (.unreadableImage "gone.png".toList (.refused "gone.png".toList
        ⟨"FileNotFoundError".toList,
          "[Errno 2] No such file or directory: 'gone.png'".toList⟩))) := rfl
  exact ⟨inside, ⟨_, fails⟩, calls_inside_leave_others_alone setting illustrated inside⟩

end Call

end BookMarkup
