/-
This file proves that the markers of groups alternate over every session, in the order in
which they are emitted. A session is any sequence of operations on the state: constructs
are entered, documents end, and the group is discarded, in any order.

A marker counts until it is cancelled: discarding the group while it is open cancels the
opener that no closer has answered yet. The opener depends on the block rendered last and
the closer on whether a group is open. What keeps the two in step is that an open group
always stands behind a paragraph, so the opener is never emitted inside of a group.
-/

import BookMarkup.Proofs.Group.Document

namespace BookMarkup

namespace Grouping

open BookMarkup.Group (closing marks)

/-! ### Entering a paragraph -/

/-- What entering a paragraph does to the group: there is an opener unless the last block is a
paragraph. -/
theorem enter_paragraph (state : RenderState) (level : Option Int) :
    (state.enter .paragraph level).1 =
        (if state.lastBlock = some .paragraph then none else some .opener) ∧
      (state.enter .paragraph level).2.lastBlock = some .paragraph ∧
      (state.enter .paragraph level).2.groupOpen =
        if state.lastBlock = some .paragraph then state.groupOpen else true := by
  have marker : (state.enter .paragraph level).1 =
      if state.lastBlock = some .paragraph then none else some .opener := rfl
  have groupOpen : (state.enter .paragraph level).2.groupOpen =
      RenderState.openAfter state.groupOpen (state.enter .paragraph level).1 := rfl
  refine ⟨marker, rfl, ?_⟩
  rw [groupOpen, marker]
  split_ifs <;> rfl

/-! ### Sessions -/

/-- An operation on the state of a renderer. -/
inductive Operation where
  /-- A construct is about to be rendered. -/
  | enter (construct : Construct) (level : Option Int)
  /-- The opener of a group was taken out of the output. -/
  | discard
  /-- A document with some content ends. -/
  | finalize (content : Text)
  deriving DecidableEq, Repr

namespace Operation

/-- The text that an operation is given. -/
def given : Operation → Text
  | .enter _ _ | .discard => []
  | .finalize content => content

/-- The text that an operation returns. -/
def returned (state : RenderState) : Operation → Text
  | .enter construct level => markerHtml (state.enter construct level).1
  | .discard => []
  | .finalize content => (state.finalize content).1

/-- The state behind an operation. -/
def after (state : RenderState) : Operation → RenderState
  | .enter construct level => (state.enter construct level).2
  | .discard => state.discardGroup
  | .finalize content => (state.finalize content).2

/-- The marker that an operation emits. -/
def marker (state : RenderState) : Operation → Option GroupMarker
  | .enter construct level => (state.enter construct level).1
  | .discard => none
  | .finalize _ => closing state.groupOpen

/-- An operation returns what it is given and its marker behind that. -/
theorem returned_eq (state : RenderState) (operation : Operation) :
    operation.returned state = operation.given ++ markerHtml (operation.marker state) := by
  cases operation <;> rfl

end Operation

/-- What is known of a session on the way: the markers that count, and the state. -/
structure Record where
  markers : List GroupMarker
  state : RenderState

namespace Record

/-- Records an operation. The markers are read off the text that it returns behind the one that it
was given; discarding an open group cancels the last marker. -/
def step (record : Record) (operation : Operation) : Record where
  markers := match operation with
    | .discard => if record.state.groupOpen then record.markers.dropLast else record.markers
    | .enter _ _ | .finalize _ =>
      record.markers ++
        marks ((operation.returned record.state).drop operation.given.length)
  state := operation.after record.state

/-- The record of a session of a chapter. -/
def ofSession (chapter : Int) (operations : List Operation) : Record :=
  operations.foldl step ⟨[], .fresh chapter⟩

/-- The markers that an operation adds are the one that it emits. -/
theorem marks_returned (state : RenderState) (operation : Operation) :
    marks ((operation.returned state).drop operation.given.length) =
      (operation.marker state).toList := by
  rw [operation.returned_eq, List.drop_left, Group.marks_markerHtml]

theorem step_enter (record : Record) (construct : Construct) (level : Option Int) :
    record.step (.enter construct level) =
      ⟨record.markers ++ (record.state.enter construct level).1.toList,
        (record.state.enter construct level).2⟩ := by
  rw [step, marks_returned]
  rfl

theorem step_discard (record : Record) :
    record.step .discard =
      ⟨if record.state.groupOpen then record.markers.dropLast else record.markers,
        record.state.discardGroup⟩ := rfl

theorem step_finalize (record : Record) (content : Text) :
    record.step (.finalize content) =
      ⟨record.markers ++ (closing record.state.groupOpen).toList,
        { record.state with groupOpen := false }⟩ := by
  rw [step, marks_returned]
  rfl

end Record

/-! ### Alternating markers -/

/-- The first markers of the endless sequence that starts with an opener and alternates. -/
def alternation (count : Nat) : List GroupMarker :=
  (List.range count).map fun index => if index % 2 = 0 then .opener else .closer

theorem alternation_succ (count : Nat) :
    alternation (count + 1) =
      alternation count ++ [if count % 2 = 0 then .opener else .closer] := by
  rw [alternation, List.range_succ, List.map_append]
  rfl

theorem length_alternation (count : Nat) : (alternation count).length = count := by
  rw [alternation, List.length_map, List.length_range]

/-- A marker in its turn prolongs alternating markers. -/
theorem alternation_concat {markers : List GroupMarker}
    (alternates : markers = alternation markers.length) {marker : GroupMarker}
    (turn : marker = if markers.length % 2 = 0 then .opener else .closer) :
    markers ++ [marker] = alternation (markers ++ [marker]).length := by
  rw [List.length_append, List.length_singleton, alternation_succ, ← turn, ← alternates]

theorem count_alternation (count : Nat) :
    (alternation count).count .opener = (count + 1) / 2 ∧
      (alternation count).count .closer = count / 2 := by
  induction count with
  | zero => exact ⟨rfl, rfl⟩
  | succ count inductionHypothesis =>
    rw [alternation_succ, List.count_append, List.count_append, inductionHypothesis.1,
      inductionHypothesis.2]
    by_cases even : count % 2 = 0
    · rw [if_pos even]
      have one : [GroupMarker.opener].count .opener = 1 ∧ [GroupMarker.opener].count .closer = 0 :=
        ⟨rfl, rfl⟩
      omega
    · rw [if_neg even]
      have one : [GroupMarker.closer].count .opener = 0 ∧ [GroupMarker.closer].count .closer = 1 :=
        ⟨rfl, rfl⟩
      omega

/-! ### The invariant -/

/-- The markers that count alternate, a group is open behind an opener, and it stands behind a
paragraph. -/
structure Record.Balanced (record : Record) : Prop where
  alternates : record.markers = alternation record.markers.length
  open_iff : record.state.groupOpen = true ↔ record.markers.length % 2 = 1
  follows : record.state.groupOpen = true → record.state.lastBlock = some .paragraph

namespace Record.Balanced

variable {record : Record} {state : RenderState}

theorem even_of_closed (balanced : record.Balanced) (closed : record.state.groupOpen = false) :
    record.markers.length % 2 = 0 := by
  have notOdd : ¬ record.markers.length % 2 = 1 := mt balanced.open_iff.mpr (by simp [closed])
  omega

/-- What emits no marker may change the rest of the state. -/
theorem silent (balanced : record.Balanced) (kept : state.groupOpen = record.state.groupOpen)
    (follows : state.groupOpen = true → state.lastBlock = some .paragraph) :
    Record.Balanced ⟨record.markers, state⟩ :=
  ⟨balanced.alternates, by rw [← balanced.open_iff, ← kept], follows⟩

/-- An opener may be emitted where no group is open. -/
theorem opener (balanced : record.Balanced) (closed : record.state.groupOpen = false)
    (opened : state.groupOpen = true) (follows : state.lastBlock = some .paragraph) :
    Record.Balanced ⟨record.markers ++ [.opener], state⟩ := by
  have even := balanced.even_of_closed closed
  refine ⟨alternation_concat balanced.alternates (if_pos even).symm, ?_, fun _ => follows⟩
  rw [List.length_append, List.length_singleton]
  exact ⟨fun _ => by omega, fun _ => opened⟩

/-- A group is closed where one is open, and nowhere else. -/
theorem closer (balanced : record.Balanced) (closed : state.groupOpen = false) :
    Record.Balanced ⟨record.markers ++ (closing record.state.groupOpen).toList, state⟩ := by
  have noGroup : ¬ state.groupOpen = true := by simp [closed]
  cases isOpen : record.state.groupOpen with
  | true =>
    have odd := balanced.open_iff.mp isOpen
    refine ⟨alternation_concat balanced.alternates (if_neg (by omega)).symm, ?_,
      fun opened => absurd opened noGroup⟩
    rw [List.length_append, show (closing true).toList.length = 1 from rfl]
    exact ⟨fun opened => absurd opened noGroup, fun _ => by omega⟩
  | false =>
    have kept : Record.Balanced ⟨record.markers, state⟩ :=
      balanced.silent (closed.trans isOpen.symm) fun opened => absurd opened noGroup
    rwa [← List.append_nil record.markers] at kept

/-- The last marker of an open group is its opener. -/
theorem ends_in_opener (balanced : record.Balanced) (isOpen : record.state.groupOpen = true) :
    ∃ count, count % 2 = 0 ∧ record.markers = alternation count ++ [.opener] := by
  have odd := balanced.open_iff.mp isOpen
  obtain ⟨count, length⟩ : ∃ count, record.markers.length = count + 1 :=
    Nat.exists_eq_succ_of_ne_zero (by omega)
  have even : count % 2 = 0 := by omega
  refine ⟨count, even, ?_⟩
  rw [balanced.alternates, length, alternation_succ, if_pos even]

/-- The opener of an open group may be cancelled. -/
theorem cancel (balanced : record.Balanced) (isOpen : record.state.groupOpen = true)
    (closed : state.groupOpen = false) :
    Record.Balanced ⟨record.markers.dropLast, state⟩ := by
  obtain ⟨count, even, markers⟩ := balanced.ends_in_opener isOpen
  have noGroup : ¬ state.groupOpen = true := by simp [closed]
  rw [markers, List.dropLast_concat]
  refine ⟨by rw [length_alternation], ?_, fun opened => absurd opened noGroup⟩
  rw [length_alternation]
  exact ⟨fun opened => absurd opened noGroup, fun _ => by omega⟩

/-! ### Steps -/

/-- A paragraph opens a group unless it follows a paragraph. -/
theorem enter_paragraph (balanced : record.Balanced) (level : Option Int) :
    (record.step (.enter .paragraph level)).Balanced := by
  obtain ⟨marker, lastBlock, groupOpen⟩ := Grouping.enter_paragraph record.state level
  rw [Record.step_enter, marker]
  by_cases behind : record.state.lastBlock = some .paragraph
  · rw [if_pos behind, Option.toList_none, List.append_nil]
    rw [if_pos behind] at groupOpen
    exact balanced.silent groupOpen fun _ => lastBlock
  · rw [if_neg behind]
    rw [if_neg behind] at groupOpen
    exact balanced.opener (by simpa using mt balanced.follows behind) groupOpen lastBlock

/-- Every operation keeps the balance. -/
theorem step (balanced : record.Balanced) (operation : Operation) :
    (record.step operation).Balanced := by
  cases operation with
  | enter construct level =>
    by_cases paragraph : construct = .paragraph
    · rw [paragraph]
      exact balanced.enter_paragraph level
    · rw [Record.step_enter]
      cases block : construct.isBlock with
      | true =>
        have isOpen : record.state.groupOpen = record.state.groupOpen := rfl
        obtain ⟨marker, grouped⟩ := Group.enter_block isOpen construct block paragraph level
        rw [marker]
        exact balanced.closer grouped.groupOpen
      | false =>
        rw [RenderState.enter_of_not_isBlock _ construct level block, Option.toList_none,
          List.append_nil]
        exact balanced.silent rfl balanced.follows
  | discard =>
    rw [Record.step_discard]
    cases isOpen : record.state.groupOpen with
    | true => exact balanced.cancel isOpen rfl
    | false => exact balanced.silent isOpen.symm nofun
  | finalize content =>
    rw [Record.step_finalize]
    exact balanced.closer rfl

/-- The balance is kept over every session. -/
theorem ofSession (chapter : Int) (operations : List Operation) :
    (Record.ofSession chapter operations).Balanced := by
  induction operations using List.reverseRecOn with
  | nil => exact ⟨rfl, by simp [Record.ofSession, RenderState.fresh], nofun⟩
  | append_singleton before operation inductionHypothesis =>
    have stepped : Record.ofSession chapter (before ++ [operation]) =
        (Record.ofSession chapter before).step operation := by
      rw [Record.ofSession, List.foldl_append]
      rfl
    rw [stepped]
    exact inductionHypothesis.step operation

end Record.Balanced

/-! ### Every session -/

/-- In every session of every chapter the markers that count alternate strictly and start with an
opener, what is read is all that the operations add, a group is open exactly while there is one
opener more than there are closers, and then the opener to cancel comes last and the last block is
a paragraph. -/
theorem markers_alternate_in_every_session (chapter : Int) (operations : List Operation) :
    let record := Record.ofSession chapter operations
    record.markers = alternation record.markers.length ∧
      (∀ operation : Operation, ∃ marker,
        operation.returned record.state = operation.given ++ markerHtml marker) ∧
      (record.state.groupOpen = true ↔
        record.markers.count .opener = record.markers.count .closer + 1) ∧
      (record.state.groupOpen = true →
        record.markers.getLast? = some .opener ∧ record.state.lastBlock = some .paragraph) := by
  intro record
  have balanced : record.Balanced := .ofSession chapter operations
  refine ⟨balanced.alternates,
    fun operation => ⟨operation.marker record.state, operation.returned_eq record.state⟩, ?_, ?_⟩
  · obtain ⟨openers, closers⟩ := count_alternation record.markers.length
    rw [balanced.open_iff, balanced.alternates, openers, closers, ← balanced.alternates]
    omega
  · intro isOpen
    obtain ⟨count, -, markers⟩ := balanced.ends_in_opener isOpen
    exact ⟨by rw [markers, List.getLast?_concat], balanced.follows isOpen⟩

/-- A discarded opener does not count; the group behind the rule is the first one. -/
example : (Record.ofSession 1 [.enter .paragraph none, .discard, .enter .rule none,
    .enter .paragraph none, .enter .text none, .finalize []]).markers = [.opener, .closer] := by
  decide

end Grouping

end BookMarkup
