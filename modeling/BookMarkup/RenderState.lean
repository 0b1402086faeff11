/-
This file holds the state that the hooks of one renderer share. The state counts the
headings, remembers the construct and the block rendered last, and knows whether a
group of paragraphs is open.

A group is opened by a paragraph that does not follow a paragraph and closed by the
next block that is no paragraph, or at the end of the document. Each step reports the
group marker that it emits; the marker is written in front of the markup of the
construct.
-/

import BookMarkup.Construct

namespace BookMarkup

/-! ### Group markers -/

/-- A marker of a group of paragraphs in the output. -/
inductive GroupMarker where
  /-- The start tag of the group. -/
  | opener
  /-- The end tag of the group. -/
  | closer
  deriving DecidableEq, Repr

/-- The markup of a group marker. -/
def GroupMarker.html : GroupMarker → Text
  | .opener => "<div class=\"paragraphs\">".toList
  | .closer => "</div>".toList

/-- The markup of a marker that may be absent. -/
def markerHtml : Option GroupMarker → Text
  | some marker => marker.html
  | none => []

/-! ### The state -/

/-- The state that the hooks of one renderer share. -/
structure RenderState where
  /-- The number of the chapter. -/
  chapter : Int
  /-- How many headings of level two there were. -/
  sections : Int
  /-- How many headings of level three there were since the last one of level two. -/
  subsections : Int
  /-- The construct rendered last. -/
  last : Option Construct
  /-- The block rendered last. -/
  lastBlock : Option Construct
  /-- Whether a group of paragraphs is open. -/
  groupOpen : Bool
  deriving DecidableEq, Repr

namespace RenderState

/-- The state at the start of a chapter. -/
def fresh (chapter : Int) : RenderState :=
  ⟨chapter, 0, 0, none, none, false⟩

/-- Counts a heading of a level. -/
def count (state : RenderState) (level : Option Int) : RenderState :=
  if level = some 2 then { state with sections := state.sections + 1, subsections := 0 }
  else if level = some 3 then { state with subsections := state.subsections + 1 }
  else state

/-- Remembers a construct as the last one, and as the last block if it is one. -/
def remember (state : RenderState) (construct : Construct) : RenderState :=
  { state with
    last := some construct
    lastBlock := if construct.isBlock then some construct else state.lastBlock }

/-- The group marker in front of a construct. -/
def markerBefore (state : RenderState) (construct : Construct) : Option GroupMarker :=
  if construct = .paragraph then
    if state.lastBlock = some .paragraph then none else some .opener
  else if construct.isBlock && state.groupOpen then some .closer
  else none

/-- Whether the group is open behind a marker. -/
def openAfter (groupOpen : Bool) : Option GroupMarker → Bool
  | some .opener => true
  | some .closer => false
  | none => groupOpen

/-- Enters a construct that is about to be rendered; `level` counts only for headings. The
result is the group marker to write first and the state afterwards. -/
def enter (state : RenderState) (construct : Construct) (level : Option Int) :
    Option GroupMarker × RenderState :=
  let counted := if construct = .heading then state.count level else state
  let marker := state.markerBefore construct
  (marker, { counted.remember construct with groupOpen := openAfter state.groupOpen marker })

/-- Forgets an open group whose start tag was taken out of the output. -/
def discardGroup (state : RenderState) : RenderState :=
  { state with groupOpen := false }

/-- Ends a document: an open group is closed. The last block is still remembered. -/
def finish (state : RenderState) : Option GroupMarker × RenderState :=
  (if state.groupOpen then some .closer else none, { state with groupOpen := false })

/-- Ends a document with its content; the end tag of an open group is put behind it. -/
def finalize (state : RenderState) (content : Text) : Text × RenderState :=
  let (marker, after) := state.finish
  (content ++ markerHtml marker, after)

/-- The number shown in front of a heading of a level: the chapter, the section in it, or, for
every deeper level, the subsection in that. -/
def headingNumber (state : RenderState) (level : Int) : Text :=
  let chapter := Text.ofInt state.chapter
  if level = 1 then chapter
  else if level = 2 then chapter ++ ['.'] ++ Text.ofInt state.sections
  else chapter ++ ['.'] ++ Text.ofInt state.sections ++ ['.'] ++ Text.ofInt state.subsections

/-! ### What a step leaves alone -/

/-- Entering a construct keeps the chapter. -/
theorem enter_chapter (state : RenderState) (construct : Construct) (level : Option Int) :
    (state.enter construct level).2.chapter = state.chapter := by
  simp only [enter, remember, count]
  split <;> (try split) <;> (try split) <;> rfl

/-- Entering a construct that is no heading keeps the counters. -/
theorem enter_counters (state : RenderState) (construct : Construct) (level : Option Int)
    (other : construct ≠ .heading) :
    (state.enter construct level).2.sections = state.sections ∧
      (state.enter construct level).2.subsections = state.subsections := by
  simp [enter, remember, other]

/-- Entering a construct that is no block emits no marker and changes nothing but the last
construct. -/
theorem enter_of_not_isBlock (state : RenderState) (construct : Construct) (level : Option Int)
    (inside : construct.isBlock = false) :
    state.enter construct level = (none, { state with last := some construct }) := by
  cases construct <;> first
    | rfl
    | simp [Construct.isBlock] at inside

end RenderState

end BookMarkup
