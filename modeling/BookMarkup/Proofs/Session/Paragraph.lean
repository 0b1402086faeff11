/-
This file proves which paragraphs of a session stand inside of a group. A session renders
documents one after the other; the end of a document closes the group but does not forget
the last block. So a paragraph at the start of a document that follows a paragraph of an
earlier document opens no group, and neither do the paragraphs that follow it. Every other
paragraph stands inside of a group: behind any block that is no paragraph the groups of a
document start anew.
-/

import BookMarkup.Proofs.Session.Grouping
import BookMarkup.Proofs.Session.Inside

namespace BookMarkup

namespace Session

/-! ### Documents -/

/-- Whether a call ends a document. -/
def endsDocument : Call → Bool
  | .finalize _ => true
  | _ => false

/-- A document as the hooks see it: the calls for its constructs, and the content at its end. -/
structure Script where
  /-- The calls for the constructs, children before their parent. -/
  constructs : List Call
  /-- The content that the end of the document is given. -/
  content : Text
  /-- The document does not end in between. -/
  whole : ∀ call ∈ constructs, endsDocument call = false

/-- The calls of a document. -/
def Script.calls (script : Script) : List Call :=
  script.constructs ++ [.finalize script.content]

/-- The calls of documents rendered one after the other. -/
def callsOf (documents : List Script) : List Call :=
  documents.flatMap Script.calls

/-- The block that a call renders, if it renders one. -/
def blockOf? : Call → Option Construct
  | .heading _ _ => some .heading
  | .paragraph _ => some .paragraph
  | .quote _ => some .quote
  | .code _ _ => some .code
  | .html _ => some .html
  | .rule => some .rule
  | .list _ _ _ => some .list
  | .table _ => some .table
  | _ => none

/-- The blocks that calls render, in order. -/
def blocksOf (calls : List Call) : List Construct :=
  calls.filterMap blockOf?

theorem blocksOf_append (first second : List Call) :
    blocksOf (first ++ second) = blocksOf first ++ blocksOf second :=
  List.filterMap_append

theorem blocksOf_singleton (call : Call) : blocksOf [call] = (blockOf? call).toList := by
  cases call <;> rfl

theorem callsOf_append (first second : List Script) :
    callsOf (first ++ second) = callsOf first ++ callsOf second :=
  List.flatMap_append

/-! ### The group in a document -/

/-- Whether groups start anew in a document with some blocks so far, behind the blocks of earlier
documents: the earlier ones do not end in a paragraph, or one of its own is no paragraph. -/
def StartsAnew (earlier blocks : List Construct) : Prop :=
  earlier.getLast? ≠ some .paragraph ∨ ∃ block ∈ blocks, block ≠ .paragraph

/-- The state knows the last block of the session, and a group is open behind a paragraph if groups
have started anew. -/
structure Tracks (earlier blocks : List Construct) (state : RenderState) : Prop where
  lastBlock : state.lastBlock = (earlier ++ blocks).getLast?
  open_iff : state.groupOpen = true ↔
    (earlier ++ blocks).getLast? = some .paragraph ∧ StartsAnew earlier blocks

theorem tracks_fresh (chapter : Int) : Tracks [] [] (.fresh chapter) :=
  ⟨rfl, by simp [RenderState.fresh]⟩

/-- Behind a block that is no paragraph groups have started anew. -/
theorem startsAnew_of_last {earlier blocks : List Construct}
    (other : (earlier ++ blocks).getLast? ≠ some .paragraph) : StartsAnew earlier blocks := by
  induction blocks using List.reverseRecOn with
  | nil => exact Or.inl (by simpa using other)
  | append_singleton before last =>
    refine Or.inr ⟨last, by simp, ?_⟩
    rintro rfl
    exact other (by simp)

theorem startsAnew_concat_paragraph (earlier blocks : List Construct) :
    StartsAnew earlier (blocks ++ [.paragraph]) ↔ StartsAnew earlier blocks := by
  simp [StartsAnew, or_and_right]

variable {earlier blocks : List Construct} {state : RenderState}

/-- A paragraph is in a group if the groups of its document have started anew. -/
theorem Tracks.paragraph (tracks : Tracks earlier blocks state) :
    Tracks earlier (blocks ++ [.paragraph]) (state.enter .paragraph none).2 := by
  obtain ⟨-, lastBlock, groupOpen⟩ := Grouping.enter_paragraph state none
  have last : (earlier ++ (blocks ++ [Construct.paragraph])).getLast? = some .paragraph := by simp
  refine ⟨lastBlock.trans last.symm, ?_⟩
  rw [groupOpen, tracks.lastBlock, startsAnew_concat_paragraph]
  by_cases behind : (earlier ++ blocks).getLast? = some .paragraph
  · rw [if_pos behind, tracks.open_iff]
    exact ⟨fun ⟨_, anew⟩ => ⟨last, anew⟩, fun ⟨_, anew⟩ => ⟨behind, anew⟩⟩
  · rw [if_neg behind]
    exact ⟨fun _ => ⟨last, startsAnew_of_last behind⟩, fun _ => rfl⟩

/-- No group is open behind any other block, whatever state it is entered in. -/
theorem tracks_block (earlier blocks : List Construct) (state : RenderState)
    {construct : Construct} (block : construct.isBlock = true) (other : construct ≠ .paragraph)
    (level : Option Int) :
    Tracks earlier (blocks ++ [construct]) (state.enter construct level).2 := by
  have isOpen : state.groupOpen = state.groupOpen := rfl
  obtain ⟨-, closed, -⟩ := Group.enter_block isOpen construct block other level
  have last : (state.enter construct level).2.lastBlock = some construct := by
    simp [RenderState.enter, RenderState.remember, block]
  refine ⟨by rw [last]; simp, ?_⟩
  rw [closed]
  simp [other]

/-- The rest of the state does not matter. -/
theorem Tracks.withLast (tracks : Tracks earlier blocks state) (last : Option Construct) :
    Tracks earlier blocks (state.withLast last) :=
  ⟨tracks.lastBlock, tracks.open_iff⟩

/-- Every call that does not end the document adds the block that it renders. -/
theorem Tracks.effect (tracks : Tracks earlier blocks state) {call : Call}
    (goesOn : endsDocument call = false) :
    Tracks earlier (blocks ++ (blockOf? call).toList) (call.effect state) := by
  cases inside : call.isInside with
  | true =>
    have noBlock : (blockOf? call).toList = [] := by cases call <;> first | rfl | cases inside
    obtain ⟨last, after⟩ := Call.effect_of_isInside inside state
    rw [noBlock, List.append_nil, after]
    exact tracks.withLast last
  | false =>
    cases call with
    | paragraph content => exact tracks.paragraph
    | heading | quote | code | html | rule | list | table =>
      exact tracks_block earlier blocks _ rfl (by decide) _
    | finalize => cases goesOn
    | _ => cases inside

theorem Tracks.effects (tracks : Tracks earlier blocks state) (calls : List Call)
    (goOn : ∀ call ∈ calls, endsDocument call = false) :
    Tracks earlier (blocks ++ blocksOf calls)
      (calls.foldl (fun before call => call.effect before) state) := by
  induction calls using List.reverseRecOn with
  | nil => simpa [blocksOf] using tracks
  | append_singleton before last inductionHypothesis =>
    obtain ⟨earlierGoOn, lastGoesOn⟩ := List.forall_mem_append.mp goOn
    have tracked := (inductionHypothesis earlierGoOn).effect (lastGoesOn last (by simp))
    rw [List.foldl_append]
    rwa [List.append_assoc, ← blocksOf_singleton, ← blocksOf_append] at tracked

/-- At the end of a document its blocks become earlier ones. -/
theorem Tracks.finish (tracks : Tracks earlier blocks state) (content : Text) :
    Tracks (earlier ++ blocks) [] ((Call.finalize content).effect state) := by
  refine ⟨by rw [List.append_nil]; exact tracks.lastBlock, ?_⟩
  rw [List.append_nil]
  constructor
  · intro isOpen
    cases isOpen
  · rintro ⟨ends, other | ⟨block, member, -⟩⟩
    · exact absurd ends other
    · cases member

/-! ### The group in a session -/

/-- What the calls of documents leave behind. -/
theorem tracks_callsOf (chapter : Int) (documents : List Script) :
    Tracks (blocksOf (callsOf documents)) []
      ((callsOf documents).foldl (fun before call => call.effect before) (.fresh chapter)) := by
  induction documents using List.reverseRecOn with
  | nil => exact tracks_fresh chapter
  | append_singleton before last inductionHypothesis =>
    have ended := (inductionHypothesis.effects last.constructs last.whole).finish last.content
    have calls : callsOf (before ++ [last]) =
        callsOf before ++ (last.constructs ++ [.finalize last.content]) := by
      rw [callsOf_append]
      simp [callsOf, Script.calls]
    have noBlock : blocksOf [.finalize last.content] = [] := rfl
    rw [calls, List.foldl_append, List.foldl_append, blocksOf_append, blocksOf_append, noBlock,
      List.append_nil]
    rwa [List.nil_append] at ended

/-- What earlier documents and the calls for some constructs of the next one leave behind. -/
theorem tracks_runAll (setting : Setting) (chapter : Int) (documents : List Script)
    {constructs : List Call} (goOn : ∀ call ∈ constructs, endsDocument call = false) :
    Tracks (blocksOf (callsOf documents)) (blocksOf constructs)
      (Call.runAll setting (callsOf documents ++ constructs) (.fresh chapter)).2 := by
  rw [Call.runAll_snd, List.foldl_append]
  have tracked := (tracks_callsOf chapter documents).effects constructs goOn
  rwa [List.nil_append] at tracked

/-- In a session of any documents, a paragraph stands in a group exactly if groups have started anew
in its document: the earlier documents do not end in a paragraph, or a block in front of it in its
own document is no paragraph. It is written behind an opener exactly if the last block of the
session in front of it is no paragraph. -/
theorem paragraph_in_group_iff (setting : Setting) (earlier later : List Script)
    (document : Script) (before : List Call) (text : Text) (after : List Call)
    (split : document.constructs = before ++ .paragraph text :: after) :
    ∃ outcome,
      (Call.runAll setting (callsOf (earlier ++ document :: later))
          (.fresh setting.options.chapter)).1[(callsOf earlier ++ before).length]? =
        some outcome ∧
      (outcome.state.groupOpen = true ↔
        (blocksOf (callsOf earlier)).getLast? ≠ some .paragraph ∨
          ∃ block ∈ blocksOf before, block ≠ .paragraph) ∧
      outcome.result = .ok
        (markerHtml
            (if (blocksOf (callsOf earlier ++ before)).getLast? = some .paragraph then none
              else some .opener) ++
          Hook.paragraphMarkup text) := by
  have calls : callsOf (earlier ++ document :: later) =
      (callsOf earlier ++ before) ++
        .paragraph text :: (after ++ .finalize document.content :: callsOf later) := by
    rw [callsOf_append]
    simp [callsOf, Script.calls, split]
  have goOn : ∀ call ∈ before, endsDocument call = false := fun call member =>
    document.whole call (by rw [split]; exact List.mem_append_left _ member)
  have tracks := tracks_runAll setting setting.options.chapter earlier goOn
  generalize reached : (Call.runAll setting (callsOf earlier ++ before)
    (.fresh setting.options.chapter)).2 = state at tracks
  refine ⟨(Call.paragraph text).run setting state, ?_, ?_, ?_⟩
  · rw [calls, Call.runAll_getElem?, reached]
  · have inside := tracks.paragraph.open_iff
    rw [startsAnew_concat_paragraph] at inside
    exact inside.trans (and_iff_right (by simp))
  · have marker := (Grouping.enter_paragraph state none).1
    rw [tracks.lastBlock, ← blocksOf_append] at marker
    rw [← marker]
    rfl

/-- A document of one paragraph. -/
def paragraphAlone (text : Text) : Script :=
  ⟨[.paragraph text], [], by simp [endsDocument]⟩

/-- A document of two paragraphs with a rule between them. -/
def paragraphsAroundRule (first second : Text) : Script :=
  ⟨[.paragraph first, .rule, .paragraph second], [], by simp [endsDocument]⟩

/-- Behind a rule a paragraph opens a group also in the second document. -/
theorem paragraph_in_group_behind_rule :
    (paragraphsAroundRule ['b'] ['c']).constructs =
        [.paragraph ['b'], .rule] ++ .paragraph ['c'] :: [] ∧
      ∃ outcome,
        (Call.runAll ⟨{}, .ofFiles []⟩
          (callsOf ([paragraphAlone ['a']] ++ paragraphsAroundRule ['b'] ['c'] :: []))
            (.fresh 1)).1[4]? = some outcome ∧
        outcome.state.groupOpen = true ∧
        outcome.result = .ok "<div class=\"paragraphs\"><p>c</p>\n".toList := by
  refine ⟨rfl, ?_⟩
  obtain ⟨outcome, found, inGroup, written⟩ := paragraph_in_group_iff ⟨{}, .ofFiles []⟩
    [paragraphAlone ['a']] [] (paragraphsAroundRule ['b'] ['c']) [.paragraph ['b'], .rule] ['c'] []
    rfl
  exact ⟨outcome, found, inGroup.mpr (by decide), written.trans (by decide)⟩

/-- Not every paragraph of a session without quotes stands in a group: behind a document of one
paragraph, the paragraph of the next document does not. -/
theorem not_every_paragraph_in_group :
    ¬ ∀ (setting : Setting) (earlier : List Script) (document : Script) (before : List Call)
      (text : Text) (after : List Call),
      (∀ script ∈ earlier ++ [document], ∀ content, Call.quote content ∉ script.constructs) →
      document.constructs = before ++ .paragraph text :: after →
      (Call.runAll setting (callsOf earlier ++ before ++ [.paragraph text])
        (.fresh setting.options.chapter)).2.groupOpen = true := by
  intro always
  have isOpen := always ⟨{}, .ofFiles []⟩ [paragraphAlone ['a']] (paragraphAlone ['b']) [] ['b'] []
    (by simp [paragraphAlone]) rfl
  exact absurd isOpen (by decide)

end Session

end BookMarkup
