/-
This file proves where the credit is cut off the title of a figure. The place of the marker
is counted in the small form of the title, which is as long as the title up to that place
unless it holds a dotted capital `I`, the one letter whose small form has two characters.
Each of them moves the cut one place on, into the marker, and since the marker starts with
a visible character the text of the caption is then another one.
-/

import BookMarkup.Figure.Credit
import BookMarkup.Proofs.Text.Letter
import BookMarkup.Proofs.Text.Trim
import Mathlib.Data.Nat.Find

namespace BookMarkup

namespace Figure

/-! ### Places of the marker -/

/-- Whether the marker of a credit stands at a place of a title, in any case. -/
def MarkerAt (title : Text) (place : Nat) : Prop :=
  Text.lower ((title.drop place).take creditMarker.length) = creditMarker

instance (title : Text) (place : Nat) : Decidable (MarkerAt title place) :=
  inferInstanceAs (Decidable (_ = _))

/-- Whether a place is the first one at which the marker stands. -/
structure IsFirstMarker (title : Text) (place : Nat) : Prop where
  /-- The marker stands there. -/
  here : MarkerAt title place
  /-- It stands at no place in front of it. -/
  first : ∀ earlier < place, ¬ MarkerAt title earlier

variable {title : Text} {place : Nat}

theorem startsCaseless_iff {front text : Text} :
    Text.startsCaseless front text = true ↔ Text.lower (text.take front.length) = front := by
  rw [Text.startsCaseless, List.isPrefixOf_iff_prefix]
  constructor
  · intro starts
    refine (starts.eq_of_length_le ?_).symm
    rw [Text.lower, List.length_map, List.length_take]
    exact Nat.min_le_left _ _
  · intro equal
    rw [equal]

theorem markerAt_zero_iff :
    MarkerAt title 0 ↔ Text.startsCaseless creditMarker title = true := by
  rw [startsCaseless_iff, MarkerAt, List.drop_zero]

theorem not_markerAt_nil : ¬ MarkerAt [] place := by
  rw [MarkerAt, List.drop_nil]
  decide

/-- Behind the place of a marker there is room for it. -/
theorem MarkerAt.lt (marker : MarkerAt title place) : place < title.length := by
  by_contra beyond
  rw [MarkerAt, List.drop_eq_nil_of_le (Nat.le_of_not_lt beyond)] at marker
  exact absurd marker (by decide)

/-- A marker starts with a visible character. -/
theorem MarkerAt.visible (marker : MarkerAt title place) :
    ∃ head rest, title.drop place = head :: rest ∧ isBlank head = false := by
  have nonempty : title.drop place ≠ [] := fun beyond =>
    absurd marker.lt (Nat.not_lt.mpr (List.drop_eq_nil_iff.mp beyond))
  obtain ⟨head, rest, equal⟩ := List.exists_cons_of_ne_nil nonempty
  refine ⟨head, rest, equal, ?_⟩
  rw [MarkerAt, equal] at marker
  have small : head.toLower = 'c' := (List.cons.inj marker).1
  rw [← @eq_of_toLower _ isBlank (by decide) head, small]
  rfl

/-- A title in which the marker stands somewhere has a first place of it. -/
theorem exists_isFirstMarker (found : ∃ place, MarkerAt title place) :
    ∃ place, IsFirstMarker title place :=
  ⟨Nat.find found, Nat.find_spec found, fun _ => Nat.find_min found⟩

theorem beforeCredit?_of_isFirstMarker (first : IsFirstMarker title place) :
    beforeCredit? title = some (title.take place) := by
  induction title generalizing place with
  | nil => exact absurd first.here not_markerAt_nil
  | cons head rest inductionHypothesis =>
    cases place with
    | zero => rw [beforeCredit?, if_pos (markerAt_zero_iff.mp first.here), List.take_zero]
    | succ place =>
      have notHere := mt markerAt_zero_iff.mpr (first.first 0 (Nat.succ_pos place))
      have later : IsFirstMarker rest place :=
        ⟨first.here, fun earlier before => first.first (earlier + 1) (Nat.succ_lt_succ before)⟩
      rw [beforeCredit?, if_neg notHere, inductionHypothesis later]
      rfl

theorem beforeCredit?_of_no_marker (absent : ∀ place, ¬ MarkerAt title place) :
    beforeCredit? title = none := by
  induction title with
  | nil => rfl
  | cons head rest inductionHypothesis =>
    rw [beforeCredit?, if_neg (mt markerAt_zero_iff.mpr (absent 0)),
      inductionHypothesis fun place => absent (place + 1)]
    rfl

/-! ### The cut -/

theorem splitCredit_of_no_marker (absent : ∀ place, ¬ MarkerAt title place) :
    splitCredit title = ⟨title, none⟩ := by
  unfold splitCredit creditIndex?
  rw [beforeCredit?_of_no_marker absent]
  rfl

theorem splitCredit_of_markerAt_zero (marker : MarkerAt title 0) :
    splitCredit title = ⟨title, none⟩ := by
  have first : IsFirstMarker title 0 := ⟨marker, fun _ before => absurd before (Nat.not_lt_zero _)⟩
  unfold splitCredit creditIndex?
  rw [beforeCredit?_of_isFirstMarker first]
  rfl

/-- Every dotted capital in front of the marker moves the cut one place on. -/
theorem splitCredit_of_isFirstMarker (inside : 0 < place) (first : IsFirstMarker title place) :
    splitCredit title =
      ⟨Text.trim (title.take (place + (title.take place).count '\u0130')),
        some (Text.trim (title.drop
          (place + (title.take place).count '\u0130' + creditMarker.length)))⟩ := by
  have size : (title.take place).length = place :=
    List.length_take_of_le (Nat.le_of_lt first.here.lt)
  unfold splitCredit creditIndex?
  rw [beforeCredit?_of_isFirstMarker first, Option.map_some, size]
  obtain ⟨index, equal⟩ := Nat.exists_eq_succ_of_ne_zero
    (Nat.ne_of_gt (Nat.lt_add_right ((title.take place).count '\u0130') inside))
  rw [equal]
  rfl

/-- A title that gives a credit has its first marker behind other characters. -/
theorem exists_isFirstMarker_of_credit {credit : Text}
    (split : (splitCredit title).credit = some credit) :
    ∃ place, 0 < place ∧ IsFirstMarker title place := by
  by_cases found : ∃ place, MarkerAt title place
  · obtain ⟨place, first⟩ := exists_isFirstMarker found
    cases place with
    | zero =>
      rw [splitCredit_of_markerAt_zero first.here] at split
      cases split
    | succ place => exact ⟨place + 1, Nat.succ_pos place, first⟩
  · rw [splitCredit_of_no_marker (not_exists.mp found)] at split
    cases split

/-- The text of the caption is empty when only blanks stand in front of the marker. A dotted capital
is none of them. -/
theorem text_splitCredit_eq_nil_iff (inside : 0 < place) (first : IsFirstMarker title place) :
    (splitCredit title).text = [] ↔ ∀ c ∈ title.take place, isBlank c = true := by
  rw [splitCredit_of_isFirstMarker inside first, Text.trim_eq_nil_iff]
  constructor
  · intro blank c member
    rw [List.take_add] at blank
    exact blank c (List.mem_append_left _ member)
  · intro blank
    have undotted : '\u0130' ∉ title.take place := fun member =>
      absurd (blank _ member) (by decide)
    rwa [List.count_eq_zero_of_not_mem undotted]

/-- A text that goes on with a visible character is another one when it is trimmed. -/
theorem trim_append_ne {front more : Text}
    (starts : ∃ first ∈ more.head?, isBlank first = false) :
    Text.trim (front ++ more) ≠ Text.trim front := by
  obtain ⟨first, inHead, visible⟩ := starts
  have notAll : more.all isBlank = false := by
    obtain ⟨rest, rfl⟩ := List.head?_eq_some_iff.mp (Option.mem_def.mp inHead)
    rw [List.all_cons, visible, Bool.false_and]
  obtain ⟨ended, nonempty⟩ := Text.trimEnd_append notAll (Text.trimStart front)
  have shorter : (Text.trim front).length ≤ (Text.trimStart front).length :=
    (Text.dropEndWhile_starts isBlank (Text.trimStart front)).length_le
  have positive := List.length_pos_iff.mpr nonempty
  intro equal
  have sizes := congrArg List.length equal
  rw [Text.trim, Text.trimStart_append_of_visible ⟨first, inHead, visible⟩, ended,
    List.length_append] at sizes
  omega

/-- A cut further on, behind the place of a marker, gives another text. -/
theorem MarkerAt.trim_take_ne (marker : MarkerAt title place) {further : Nat}
    (moved : 0 < further) :
    Text.trim (title.take (place + further)) ≠ Text.trim (title.take place) := by
  obtain ⟨head, rest, equal, visible⟩ := marker.visible
  obtain ⟨fewer, rfl⟩ := Nat.exists_eq_succ_of_ne_zero (Nat.ne_of_gt moved)
  rw [List.take_add, equal, List.take_succ_cons]
  exact trim_append_ne ⟨head, rfl, visible⟩

/-- The credit is cut off at its marker exactly when no dotted capital `I` stands in front of it.
For every title, with no marker or with one at the start the title stays whole; otherwise each
dotted capital in front of the first marker moves the cut one place on. -/
theorem credit_cut_at_marker_iff (title : Text) :
    ((∀ place, ¬ MarkerAt title place) → splitCredit title = ⟨title, none⟩) ∧
    (MarkerAt title 0 → splitCredit title = ⟨title, none⟩) ∧
    ∀ place, 0 < place → IsFirstMarker title place →
      splitCredit title =
        ⟨Text.trim (title.take (place + (title.take place).count '\u0130')),
          some (Text.trim (title.drop (place + (title.take place).count '\u0130' + 7)))⟩ ∧
      (splitCredit title =
          ⟨Text.trim (title.take place), some (Text.trim (title.drop (place + 7)))⟩ ↔
        '\u0130' ∉ title.take place) := by
  refine ⟨splitCredit_of_no_marker, splitCredit_of_markerAt_zero, fun place inside first => ?_⟩
  have moved := splitCredit_of_isFirstMarker inside first
  refine ⟨moved, ?_, ?_⟩
  · intro exact dotted
    have further := List.count_pos_iff.mpr dotted
    rw [moved] at exact
    exact first.here.trim_take_ne further (congrArg Caption.text exact)
  · intro noDotted
    rw [moved, List.count_eq_zero_of_not_mem noDotted]
    rfl

/-- A dotted capital behind the marker moves nothing, and a title that starts with the marker stays
whole. -/
theorem credit_cut_at_marker_of_plain_front :
    0 < 7 ∧ IsFirstMarker "A map. CREDIT: İ. D.".toList 7 ∧
      '\u0130' ∉ "A map. CREDIT: İ. D.".toList.take 7 ∧
      splitCredit "A map. CREDIT: İ. D.".toList = ⟨"A map.".toList, some "İ. D.".toList⟩ ∧
      MarkerAt "Credit: İ. D.".toList 0 ∧
      splitCredit "Credit: İ. D.".toList = ⟨"Credit: İ. D.".toList, none⟩ := by
  have first : IsFirstMarker "A map. CREDIT: İ. D.".toList 7 := ⟨by decide, by decide⟩
  have plainFront : '\u0130' ∉ "A map. CREDIT: İ. D.".toList.take 7 := by decide
  have starts : MarkerAt "Credit: İ. D.".toList 0 := by decide
  have cut := ((credit_cut_at_marker_iff _).2.2 7 (by decide) first).2.mpr plainFront
  refine ⟨by decide, first, plainFront, cut.trans (by decide), starts, ?_⟩
  exact (credit_cut_at_marker_iff _).2.1 starts

/-- A dotted capital in front of the marker moves the cut into it. -/
theorem credit_may_be_cut_inside_marker :
    ¬ ∀ (title : Text) (place : Nat), 0 < place → IsFirstMarker title place →
      splitCredit title =
        ⟨Text.trim (title.take place), some (Text.trim (title.drop (place + 7)))⟩ := by
  intro always
  have cut := always "İ credit: J".toList 2 (by decide) ⟨by decide, by decide⟩
  exact absurd cut (by decide)

end Figure

end BookMarkup
