/-
This file reads the occurrences of some needles off a text, from left to right. What
occurs in two texts one after the other occurs in one of them, unless a needle can
straddle the place where they meet; a character there that a needle holds only at its
start, or only at its end, rules that out. At the end are a few facts about the first
character of a kind.
-/

import BookMarkup.Text.Basic
import Mathlib.Data.List.Infix
import Mathlib.Data.List.Induction

namespace BookMarkup

namespace Text

variable {Sign : Type}

/-- The sign of the first needle that a text starts with. -/
def signAt? : List (Text × Sign) → Text → Option Sign
  | [], _ => none
  | (needle, sign) :: others, text =>
    if needle.isPrefixOf text then some sign else signAt? others text

/-- The signs of the needles in a text, from left to right. -/
def signs (needles : List (Text × Sign)) : Text → List Sign
  | [] => []
  | head :: rest => (signAt? needles (head :: rest)).toList ++ signs needles rest

variable {needles : List (Text × Sign)}

theorem signs_cons_of_none {head : Char} {rest : Text}
    (absent : signAt? needles (head :: rest) = none) :
    signs needles (head :: rest) = signs needles rest := by
  rw [signs, absent]
  rfl

/-- What text starts with depends on the needles that it starts with only. -/
theorem signAt?_congr {first second : Text}
    (same : ∀ needle ∈ needles, needle.1 <+: first ↔ needle.1 <+: second) :
    signAt? needles first = signAt? needles second := by
  induction needles with
  | nil => rfl
  | cons needle others inductionHypothesis =>
    have here : needle.1.isPrefixOf first = needle.1.isPrefixOf second := by
      rw [Bool.eq_iff_iff, List.isPrefixOf_iff_prefix, List.isPrefixOf_iff_prefix]
      exact same needle List.mem_cons_self
    rw [signAt?, signAt?, here,
      inductionHypothesis fun needle member => same needle (List.mem_cons_of_mem _ member)]

theorem signAt?_eq_none_iff {text : Text} :
    signAt? needles text = none ↔ ∀ needle ∈ needles, ¬ needle.1 <+: text := by
  induction needles with
  | nil => simp [signAt?]
  | cons needle others inductionHypothesis =>
    rw [signAt?, List.forall_mem_cons, ← inductionHypothesis]
    split
    · next starts => simp [List.isPrefixOf_iff_prefix.mp starts]
    · next other =>
      rw [List.isPrefixOf_iff_prefix] at other
      exact (and_iff_right other).symm

/-- A text does not start with a needle that starts with another character. -/
theorem isPrefixOf_of_ne {needle : Text} {first head : Char} (starts : needle.head? = some first)
    (other : first ≠ head) (rest : Text) : needle.isPrefixOf (head :: rest) = false := by
  obtain ⟨tail, rfl⟩ := List.head?_eq_some_iff.mp starts
  rw [List.isPrefixOf_cons_cons, beq_eq_false_iff_ne.mpr other, Bool.false_and]

/-- No needle starts with a character that is the first one of none. -/
theorem signAt?_eq_none_of_head {head : Char} (other : ∀ needle ∈ needles, ∃ first tail,
    needle.1 = first :: tail ∧ first ≠ head) (rest : Text) :
    signAt? needles (head :: rest) = none := by
  induction needles with
  | nil => rfl
  | cons needle others inductionHypothesis =>
    obtain ⟨first, tail, equal, different⟩ := other needle List.mem_cons_self
    rw [signAt?, isPrefixOf_of_ne (by rw [equal, List.head?_cons]) different]
    exact inductionHypothesis fun needle member => other needle (List.mem_cons_of_mem _ member)

theorem signs_append_of_heads {front : Text} (other : ∀ c ∈ front, ∀ needle ∈ needles,
    ∃ first tail, needle.1 = first :: tail ∧ first ≠ c) (rest : Text) :
    signs needles (front ++ rest) = signs needles rest := by
  induction front with
  | nil => rfl
  | cons head front inductionHypothesis =>
    rw [List.cons_append, signs_cons_of_none (signAt?_eq_none_of_head
      (other head List.mem_cons_self) _)]
    exact inductionHypothesis fun c member => other c (List.mem_cons_of_mem _ member)

/-! ### Where two texts meet -/

/-- Whether a needle cannot straddle the place where two texts meet. -/
def Apart (needle left right : Text) : Prop :=
  (∀ last ∈ left.getLast?, last ∉ needle.dropLast) ∨ ∀ first ∈ right.head?, first ∉ needle.tail

/-- Whether none of some needles can straddle the place where two texts meet. -/
def MeetApart (needles : List (Text × Sign)) (left right : Text) : Prop :=
  ∀ needle ∈ needles, Apart needle.1 left right

theorem apart_cons {needle : Text} {head second : Char} {others right : Text}
    (apart : Apart needle (head :: second :: others) right) :
    Apart needle (second :: others) right := by
  unfold Apart at *
  rwa [List.getLast?_cons_cons] at apart

theorem prefix_append_iff_of_apart {needle left right : Text} (nonempty : left ≠ [])
    (apart : Apart needle left right) : needle <+: left ++ right ↔ needle <+: left := by
  refine ⟨fun starts => ?_, fun starts => starts.trans (List.prefix_append left right)⟩
  rcases Nat.le_total needle.length left.length with short | long
  · exact List.prefix_of_prefix_length_le starts (List.prefix_append left right) short
  · obtain ⟨behind, equal⟩ :=
      List.prefix_of_prefix_length_le (List.prefix_append left right) starts long
    subst equal
    have rest : behind <+: right := (List.prefix_append_right_inj left).mp starts
    cases behind with
    | nil => rw [List.append_nil]
    | cons first others =>
      exfalso
      rcases apart with atEnd | atStart
      · refine atEnd (left.getLast nonempty) (List.getLast?_eq_some_getLast nonempty) ?_
        rw [List.dropLast_append_of_ne_nil (List.cons_ne_nil _ _)]
        exact List.mem_append_left _ (List.getLast_mem nonempty)
      · obtain ⟨tail, rfl⟩ := rest
        refine atStart first rfl ?_
        rw [List.tail_append_of_ne_nil nonempty]
        exact List.mem_append_right _ List.mem_cons_self

/-- The signs of two texts that meet apart are those of the one and those of the other. -/
theorem signs_append {left right : Text} (apart : MeetApart needles left right) :
    signs needles (left ++ right) = signs needles left ++ signs needles right := by
  induction left with
  | nil => rfl
  | cons head rest inductionHypothesis =>
    have same : signAt? needles (head :: (rest ++ right)) = signAt? needles (head :: rest) := by
      refine signAt?_congr fun needle member => ?_
      rw [← List.cons_append]
      exact prefix_append_iff_of_apart (List.cons_ne_nil _ _) (apart needle member)
    rw [List.cons_append, signs, signs, same]
    cases rest with
    | nil => simp [signs]
    | cons second others =>
      rw [inductionHypothesis fun needle member => apart_cons (apart needle member),
        List.append_assoc]

/-- A character that ends no needle adds none. -/
theorem signs_concat_of_not_suffix {text : Text} {last : Char}
    (absent : ∀ needle ∈ needles, needle.1 ≠ [] ∧ ¬ needle.1 <:+ text ++ [last]) :
    signs needles (text ++ [last]) = signs needles text := by
  induction text with
  | nil =>
    refine signs_cons_of_none (signAt?_eq_none_iff.mpr fun needle member starts => ?_)
    rw [← List.nil_append [last]] at starts
    rcases List.prefix_concat_iff.mp starts with whole | empty
    · exact (absent needle member).2 (whole ▸ List.suffix_refl _)
    · exact (absent needle member).1 (List.prefix_nil.mp empty)
  | cons head rest inductionHypothesis =>
    have same : signAt? needles (head :: (rest ++ [last])) = signAt? needles (head :: rest) := by
      refine signAt?_congr fun needle member => ?_
      rw [← List.cons_append]
      refine ⟨fun starts => ?_, fun starts => starts.trans (List.prefix_append _ _)⟩
      rcases List.prefix_concat_iff.mp starts with whole | shorter
      · exact absurd (whole ▸ List.suffix_refl _) (absent needle member).2
      · exact shorter
    rw [List.cons_append, signs, signs, same, inductionHypothesis]
    intro needle member
    exact ⟨(absent needle member).1, fun ends =>
      (absent needle member).2 (ends.trans (List.suffix_cons head _))⟩

/-- Text without the last character of any needle adds none at the end. -/
theorem signs_append_of_lasts {text behind : Text} (other : ∀ c ∈ behind, ∀ needle ∈ needles,
    ∃ front last, needle.1 = front ++ [last] ∧ last ≠ c) :
    signs needles (text ++ behind) = signs needles text := by
  induction behind using List.reverseRecOn with
  | nil => rw [List.append_nil]
  | append_singleton behind last inductionHypothesis =>
    rw [← List.append_assoc, signs_concat_of_not_suffix, inductionHypothesis fun c member =>
      other c (List.mem_append_left _ member)]
    intro needle member
    obtain ⟨front, end', equal, different⟩ :=
      other last (List.mem_append_right _ List.mem_cons_self) needle member
    rw [equal]
    refine ⟨by simp, fun ends => different ?_⟩
    obtain ⟨before, whole⟩ := ends
    rw [← List.append_assoc] at whole
    exact List.singleton_inj.mp (List.append_inj_right' whole rfl)

/-! ### Absent needles -/

/-- A text without needles in it has no signs, and the other way around. -/
theorem signs_eq_nil_iff {text : Text} (nonempty : ∀ needle ∈ needles, needle.1 ≠ []) :
    signs needles text = [] ↔ ∀ needle ∈ needles, ¬ needle.1 <:+: text := by
  induction text with
  | nil =>
    refine ⟨fun _ needle member inside => nonempty needle member (List.infix_nil.mp inside),
      fun _ => rfl⟩
  | cons head rest inductionHypothesis =>
    rw [signs, List.append_eq_nil_iff, inductionHypothesis, Option.toList_eq_nil_iff,
      signAt?_eq_none_iff]
    constructor
    · rintro ⟨here, later⟩ needle member inside
      rcases List.infix_cons_iff.mp inside with atStart | inRest
      · exact here needle member atStart
      · exact later needle member inRest
    · intro absent
      exact ⟨fun needle member atStart => absent needle member atStart.isInfix,
        fun needle member inRest => absent needle member (List.infix_cons inRest)⟩

/-- One needle alone has no signs in a text unless it occurs there. -/
theorem signs_singleton_eq_nil_iff {needle text : Text} (nonempty : needle ≠ []) :
    signs [(needle, ())] text = [] ↔ ¬ needle <:+: text := by
  rw [signs_eq_nil_iff (List.forall_mem_singleton.mpr nonempty), List.forall_mem_singleton]

/-! ### First and last occurrences -/

section Needle

variable {needle : Text} (nonempty : needle ≠ [])

theorem after?_eq_some {text : Text} (starts : needle <+: text) :
    after? needle text = some (text.drop needle.length) := by
  rw [after?, if_pos (List.isPrefixOf_iff_prefix.mpr starts)]

theorem after?_eq_none {text : Text} (other : ¬ needle <+: text) : after? needle text = none := by
  rw [after?, if_neg (mt List.isPrefixOf_iff_prefix.mp other)]

theorem after?_append (needle rest : Text) : after? needle (needle ++ rest) = some rest := by
  rw [after?_eq_some (List.prefix_append needle rest), List.drop_left]

theorem after?_spells {text rest : Text} (found : after? needle text = some rest) :
    text = needle ++ rest := by
  unfold after? at found
  split at found
  · next starts =>
    obtain ⟨tail, whole⟩ := List.isPrefixOf_iff_prefix.mp starts
    rw [← whole, List.drop_left] at found
    cases found
    exact whole.symm
  · cases found

theorem before?_append (front tail : Text) : Text.before? tail (front ++ tail) = some front := by
  have ends : tail.isSuffixOf (front ++ tail) = true :=
    List.isSuffixOf_iff_suffix.mpr (List.suffix_append front tail)
  rw [Text.before?, if_pos ends, List.length_append, Nat.add_sub_cancel, List.take_left]

theorem before?_spells {tail text front : Text} (found : before? tail text = some front) :
    text = front ++ tail := by
  unfold before? at found
  split at found
  · next ends =>
    obtain ⟨start, whole⟩ := List.isSuffixOf_iff_suffix.mp ends
    rw [← whole, List.length_append, Nat.add_sub_cancel, List.take_left] at found
    cases found
    exact whole.symm
  · cases found

/-- Where two texts meet apart, text behind the first changes nothing about what it starts with. -/
theorem after?_append_of_apart {left right : Text} (some' : left ≠ [])
    (apart : Apart needle left right) :
    after? needle (left ++ right) = (after? needle left).map (· ++ right) := by
  by_cases starts : needle <+: left
  · rw [after?_eq_some starts, after?_eq_some (starts.trans (List.prefix_append left right)),
      List.drop_append_of_le_length starts.length_le]
    rfl
  · rw [after?_eq_none starts,
      after?_eq_none (mt (prefix_append_iff_of_apart some' apart).mp starts)]
    rfl

include nonempty in
theorem breakOn_nil : breakOn needle [] = none := by
  rw [breakOn, if_neg (mt List.isEmpty_iff.mp nonempty)]

include nonempty in
theorem breakOn_append (rest : Text) : breakOn needle (needle ++ rest) = some ([], rest) := by
  obtain ⟨head, tail, rfl⟩ := List.exists_cons_of_ne_nil nonempty
  rw [List.cons_append, breakOn, ← List.cons_append, after?_append]

include nonempty in
theorem breakOnLast_nil : breakOnLast needle [] = none := by
  rw [breakOnLast, if_neg (mt List.isEmpty_iff.mp nonempty)]

theorem breakOn_spells {text before behind : Text}
    (found : breakOn needle text = some (before, behind)) : text = before ++ needle ++ behind := by
  induction text generalizing before with
  | nil =>
    rw [breakOn] at found
    split at found
    · next empty =>
      cases found
      rw [List.isEmpty_iff.mp empty]
      rfl
    · cases found
  | cons head rest inductionHypothesis =>
    rw [breakOn] at found
    by_cases starts : needle <+: head :: rest
    · obtain ⟨tail, whole⟩ := starts
      rw [← whole, after?_append] at found
      cases found
      exact whole.symm
    · rw [after?_eq_none starts] at found
      obtain ⟨⟨front, tail⟩, later, equal⟩ := Option.map_eq_some_iff.mp found
      cases equal
      rw [inductionHypothesis later]
      rfl

theorem breakOnLast_spells {text before behind : Text}
    (found : breakOnLast needle text = some (before, behind)) :
    text = before ++ needle ++ behind := by
  induction text generalizing before with
  | nil =>
    rw [breakOnLast] at found
    split at found
    · next empty =>
      cases found
      rw [List.isEmpty_iff.mp empty]
      rfl
    · cases found
  | cons head rest inductionHypothesis =>
    rw [breakOnLast] at found
    split at found
    · next front tail later =>
      cases found
      rw [inductionHypothesis later]
      rfl
    · obtain ⟨tail, starts, equal⟩ := Option.map_eq_some_iff.mp found
      cases equal
      exact after?_spells starts

include nonempty in
/-- A needle breaks a text unless it does not occur in it. -/
theorem breakOn_eq_none_iff {text : Text} : breakOn needle text = none ↔ ¬ needle <:+: text := by
  induction text with
  | nil => simp [breakOn_nil nonempty, nonempty]
  | cons head rest inductionHypothesis =>
    rw [breakOn, List.infix_cons_iff, not_or, ← inductionHypothesis]
    by_cases starts : needle <+: head :: rest
    · simp [after?_eq_some starts, starts]
    · simp [after?_eq_none starts, starts]

include nonempty in
theorem breakOnLast_eq_none_iff {text : Text} :
    breakOnLast needle text = none ↔ ¬ needle <:+: text := by
  induction text with
  | nil => simp [breakOnLast_nil nonempty, nonempty]
  | cons head rest inductionHypothesis =>
    rw [breakOnLast, List.infix_cons_iff, not_or, ← inductionHypothesis]
    cases breakOnLast needle rest with
    | some parts => simp
    | none =>
      by_cases starts : needle <+: head :: rest
      · simp [after?_eq_some starts, starts]
      · simp [after?_eq_none starts, starts]

/-- The first occurrence in a text stays the first one when text is put behind it. -/
theorem breakOn_append_of_some {left before behind : Text} (right : Text)
    (found : breakOn needle left = some (before, behind)) :
    breakOn needle (left ++ right) = some (before, behind ++ right) := by
  induction left generalizing before with
  | nil =>
    rw [breakOn] at found
    split at found
    · next empty =>
      cases found
      rw [List.isEmpty_iff.mp empty]
      cases right <;> rfl
    · cases found
  | cons head rest inductionHypothesis =>
    rw [breakOn] at found
    by_cases starts : needle <+: head :: rest
    · obtain ⟨tail, whole⟩ := starts
      rw [← whole, after?_append] at found
      cases found
      rw [List.cons_append, breakOn, ← List.cons_append, ← whole, List.append_assoc, after?_append]
    · rw [after?_eq_none starts] at found
      obtain ⟨⟨front, tail⟩, later, equal⟩ := Option.map_eq_some_iff.mp found
      cases equal
      have short : needle.length ≤ (head :: rest).length := by
        rw [breakOn_spells later]
        simp only [List.length_cons, List.length_append]
        omega
      have noStart : ¬ needle <+: head :: (rest ++ right) := fun straddles => starts
        (List.prefix_of_prefix_length_le straddles (List.prefix_append (head :: rest) right) short)
      rw [List.cons_append, breakOn, after?_eq_none noStart, inductionHypothesis later]
      rfl

theorem breakOn_append_of_none {left right : Text} (apart : Apart needle left right)
    (absent : breakOn needle left = none) :
    breakOn needle (left ++ right) =
      (breakOn needle right).map fun (before, behind) => (left ++ before, behind) := by
  induction left with
  | nil => simp
  | cons head rest inductionHypothesis =>
    rw [breakOn] at absent
    have start := after?_append_of_apart (List.cons_ne_nil head rest) apart
    rw [List.cons_append] at start
    cases here : after? needle (head :: rest) with
    | some behind =>
      rw [here] at absent
      cases absent
    | none =>
      rw [here] at absent start
      have later : breakOn needle rest = none := Option.map_eq_none_iff.mp absent
      rw [List.cons_append, breakOn, start]
      cases rest with
      | nil =>
        simp only [Option.map_none, List.nil_append]
        rfl
      | cons second others =>
        simp only [Option.map_none, inductionHypothesis (apart_cons apart) later, Option.map_map]
        rfl

include nonempty in
theorem occursIn_iff {text : Text} : occursIn needle text = true ↔ needle <:+: text := by
  rw [occursIn, Option.isSome_iff_ne_none, Ne, breakOn_eq_none_iff nonempty, not_not]

theorem occursIn_append {left right : Text} (apart : Apart needle left right) :
    occursIn needle (left ++ right) = (occursIn needle left || occursIn needle right) := by
  unfold occursIn
  cases found : breakOn needle left with
  | some parts =>
    rw [breakOn_append_of_some right found]
    rfl
  | none =>
    rw [breakOn_append_of_none apart found, Option.isSome_map]
    rfl

include nonempty in
/-- A needle that occurs in none of two texts does not occur where they meet apart. -/
theorem not_infix_append {left right : Text} (apart : Apart needle left right)
    (notLeft : ¬ needle <:+: left) (notRight : ¬ needle <:+: right) :
    ¬ needle <:+: left ++ right := by
  rw [← occursIn_iff nonempty, Bool.not_eq_true] at *
  rw [occursIn_append apart, notLeft, notRight]
  rfl

/-- The last occurrence in a text stays the last one when text is put in front of it. -/
theorem breakOnLast_append_of_some {right before behind : Text} (left : Text)
    (found : breakOnLast needle right = some (before, behind)) :
    breakOnLast needle (left ++ right) = some (left ++ before, behind) := by
  induction left with
  | nil => exact found
  | cons head rest inductionHypothesis =>
    rw [List.cons_append, breakOnLast, inductionHypothesis]
    rfl

include nonempty in
theorem breakOnLast_append_of_none {left right : Text} (apart : Apart needle left right)
    (absent : breakOnLast needle right = none) :
    breakOnLast needle (left ++ right) =
      (breakOnLast needle left).map fun (before, behind) => (before, behind ++ right) := by
  induction left with
  | nil =>
    rw [List.nil_append, absent, breakOnLast_nil nonempty]
    rfl
  | cons head rest inductionHypothesis =>
    have start := after?_append_of_apart (List.cons_ne_nil head rest) apart
    have later : breakOnLast needle (rest ++ right) =
        (breakOnLast needle rest).map fun (before, behind) => (before, behind ++ right) := by
      cases rest with
      | nil =>
        rw [List.nil_append, absent, breakOnLast_nil nonempty]
        rfl
      | cons second others => exact inductionHypothesis (apart_cons apart)
    rw [List.cons_append] at start
    rw [List.cons_append, breakOnLast, later, breakOnLast, start]
    cases breakOnLast needle rest with
    | some parts => rfl
    | none => cases after? needle (head :: rest) <;> rfl

include nonempty in
/-- No needle stands in front of the first one. -/
theorem not_infix_before_of_breakOn {text before behind : Text}
    (found : breakOn needle text = some (before, behind)) : ¬ needle <:+: before := by
  rw [← breakOn_eq_none_iff nonempty, Option.eq_none_iff_forall_ne_some]
  rintro ⟨front, rest⟩ earlier
  have first := breakOn_append_of_some (needle ++ behind) earlier
  rw [← List.append_assoc, ← breakOn_spells found, found] at first
  have lengths := congrArg List.length (breakOn_spells earlier)
  rw [(Prod.mk.inj (Option.some.inj first)).1] at lengths
  have positive := List.length_pos_iff.mpr nonempty
  simp only [List.length_append] at lengths
  omega

include nonempty in
/-- No needle stands behind the last one. -/
theorem not_infix_behind_of_breakOnLast {text before behind : Text}
    (found : breakOnLast needle text = some (before, behind)) : ¬ needle <:+: behind := by
  rw [← breakOnLast_eq_none_iff nonempty, Option.eq_none_iff_forall_ne_some]
  rintro ⟨front, rest⟩ further
  have last := breakOnLast_append_of_some (before ++ needle) further
  rw [← breakOnLast_spells found, found] at last
  have lengths := congrArg List.length (Prod.mk.inj (Option.some.inj last)).1
  have positive := List.length_pos_iff.mpr nonempty
  simp only [List.length_append] at lengths
  omega

/-! ### Pieces without a needle -/

/-- Whether a piece of text neither holds a needle nor begins one that what follows it completes. -/
def IsFreeOf (needle piece : Text) : Prop :=
  ∀ rest, needle <:+: piece ++ rest → needle <:+: rest

theorem IsFreeOf.append {first second : Text} (left : IsFreeOf needle first)
    (right : IsFreeOf needle second) : IsFreeOf needle (first ++ second) := by
  intro rest inside
  rw [List.append_assoc] at inside
  exact right rest (left _ inside)

/-- A piece that lacks the first character of a needle is free of it. -/
theorem isFreeOf_of_not_mem {head : Char} {others piece : Text} (absent : head ∉ piece) :
    IsFreeOf (head :: others) piece := by
  intro rest inside
  induction piece with
  | nil => exact inside
  | cons first piece inductionHypothesis =>
    rcases List.infix_cons_iff.mp inside with starts | later
    · exact absurd (List.cons_prefix_cons.mp starts).1 (List.ne_of_not_mem_cons absent)
    · exact inductionHypothesis (List.not_mem_of_not_mem_cons absent) later

include nonempty in
/-- So is one that does not hold it and ends in none of its characters but perhaps the last one. -/
theorem isFreeOf_of_closed {piece : Text} (free : occursIn needle piece = false)
    (closed : ∀ last ∈ piece.getLast?, last ∉ needle.dropLast) : IsFreeOf needle piece := by
  intro rest inside
  have own : ¬ needle <:+: piece := by
    rw [← occursIn_iff nonempty, free]
    exact Bool.false_ne_true
  refine Classical.byContradiction fun other => ?_
  exact not_infix_append nonempty (Or.inl closed) own other inside

include nonempty in
theorem IsFreeOf.occursIn_eq_false {piece : Text} (free : IsFreeOf needle piece) :
    occursIn needle piece = false := by
  rw [← Bool.not_eq_true, occursIn_iff nonempty]
  intro inside
  have ended := free [] (by rwa [List.append_nil])
  exact nonempty (List.infix_nil.mp ended)

end Needle

/-! ### Characters up to a stop -/

/-- A suffix that starts with a character which is not in the front lies behind it. -/
theorem suffix_of_not_mem {first : Char} {tail front rest : Text} (absent : first ∉ front)
    (ends : first :: tail <:+ front ++ rest) : first :: tail <:+ rest := by
  induction front with
  | nil => exact ends
  | cons head front inductionHypothesis =>
    rw [List.mem_cons, not_or] at absent
    rcases List.suffix_cons_iff.mp ends with equal | later
    · exact absurd (List.cons.inj equal).1 absent.1
    · exact inductionHypothesis absent.2 later

/-- A prefix without some character ends in front of it. -/
theorem prefix_of_not_mem {first : Char} {text front rest : Text} (absent : first ∉ text)
    (starts : text <+: front ++ first :: rest) : text <+: front := by
  rcases List.prefix_or_prefix_of_prefix starts (List.prefix_append front _) with
    inside | ⟨more, rfl⟩
  · exact inside
  · cases more with
    | nil => rw [List.append_nil]
    | cons second others =>
      have behind := (List.prefix_append_right_inj front).mp starts
      rw [(List.cons_prefix_cons.mp behind).1] at absent
      exact absurd (List.mem_append_right _ List.mem_cons_self) absent

theorem drop_length_takeWhile (holds : Char → Bool) (text : Text) :
    text.drop (text.takeWhile holds).length = text.dropWhile holds := by
  have cut : (text.takeWhile holds ++ text.dropWhile holds).drop
      (text.takeWhile holds).length = text.dropWhile holds := List.drop_left
  rwa [List.takeWhile_append_dropWhile] at cut

/-- What stops a run of characters is none of them. -/
theorem stops_dropWhile (holds : Char → Bool) (text : Text) :
    ∀ next ∈ (text.dropWhile holds).head?, holds next = false := by
  intro next inHead
  have stops := List.head?_dropWhile_not holds text
  rwa [Option.mem_def.mp inHead] at stops

theorem eq_false_of_dropWhile_eq_cons {holds : Char → Bool} {text : Text} {stop : Char}
    {rest : Text} (behind : text.dropWhile holds = stop :: rest) : holds stop = false :=
  stops_dropWhile holds text stop (by rw [behind]; rfl)

end Text

end BookMarkup
