/-
This file proves where footnote marks are found. The first bracket with a caret starts a
mark, and its label reaches up to the next closing bracket. The brackets in front of a
note are left alone when marks are replaced, because a colon follows them; so is every
bracket that starts within the label, because it has the same end.
-/

import BookMarkup.Proofs.Hook.RawBlock
import BookMarkup.Proofs.Text.Occurrence
import BookMarkup.Proofs.Text.Substitute
import BookMarkup.Proofs.Text.Trim

namespace BookMarkup

namespace Footnote

/-- What a mark or a note starts with. -/
def bracket : Text :=
  "[^".toList

/-! ### Labels -/

/-- A label that is not empty is read up to its closing bracket. -/
theorem label?_append {label : Text} (nonempty : label ≠ []) (closed : ']' ∉ label)
    (behind : Text) : label? (bracket ++ (label ++ (']' :: behind))) = some (label, behind) := by
  have taken : (label ++ (']' :: behind)).takeWhile (· != ']') = label := by
    rw [List.takeWhile_append_of_pos fun c member => by
      simpa using fun equal : c = ']' => closed (equal ▸ member)]
    simp
  have dropped : (label ++ (']' :: behind)).drop label.length = ']' :: behind := List.drop_left
  have named : label.isEmpty = false := by simpa using nonempty
  show label? ('[' :: '^' :: (label ++ (']' :: behind))) = _
  simp only [label?, taken, dropped, named, Bool.false_eq_true, if_false]

theorem label?_eq_none {text : Text} (other : ¬ bracket <+: text) : label? text = none := by
  unfold label?
  split
  · next rest => exact absurd ⟨rest, rfl⟩ other
  · rfl

theorem label?_spells {text label behind : Text}
    (found : label? text = some (label, behind)) :
    text = "[^".toList ++ (label ++ ("]".toList ++ behind)) := by
  unfold label? at found
  split at found
  · next rest =>
    dsimp only at found
    split at found
    · next tail more =>
      split at found
      · cases found
      · cases found
        rw [Text.drop_length_takeWhile] at more
        have whole := List.takeWhile_append_dropWhile (p := (· != ']')) (l := rest)
        rw [more] at whole
        exact (congrArg ("[^".toList ++ ·) whole).symm
    · cases found
  · cases found

/-! ### Marks -/

theorem markPattern_eq_zero {text : Text} (other : ¬ bracket <+: text) : markPattern text = 0 := by
  rw [markPattern, label?_eq_none other]

/-- The pattern takes a mark whole. -/
theorem markPattern_mark {label behind : Text} (nonempty : label ≠ []) (closed : ']' ∉ label)
    (noLink : behind.head? ≠ some '(') (noNote : behind.head? ≠ some ':') :
    markPattern ((bracket ++ label ++ [']']) ++ behind) = (bracket ++ label ++ [']']).length := by
  have size : (bracket ++ label ++ [']']).length = label.length + 3 := by
    simp [bracket]
  rw [List.append_assoc, List.append_assoc, List.singleton_append, markPattern,
    label?_append nonempty closed, size]
  simp [noLink, noNote]

theorem labelOf_mark (label : Text) : labelOf (bracket ++ label ++ [']']) = label := by
  have dropped : (bracket ++ label ++ [']']).drop 2 = label ++ [']'] := rfl
  rw [labelOf, dropped, List.dropLast_concat]

/-- Text without brackets in front of a mark stays as it is, and the mark becomes a superscript. -/
theorem interpolateMarks_mark {front label behind : Text} (noBracket : ¬ bracket <:+: front)
    (nonempty : label ≠ []) (closed : ']' ∉ label) (noLink : behind.head? ≠ some '(')
    (noNote : behind.head? ≠ some ':') :
    interpolateMarks (front ++ (bracket ++ (label ++ (']' :: behind)))) =
      front ++ (renderMark label ++ interpolateMarks behind) := by
  have silent (tail : Text) (some' : tail ≠ []) (inside : tail <:+ front) :
      markPattern (tail ++ (bracket ++ (label ++ (']' :: behind)))) = 0 := by
    refine markPattern_eq_zero fun starts => noBracket ?_
    have apart : Text.Apart bracket tail (bracket ++ (label ++ (']' :: behind))) :=
      Or.inr fun first inHead => by
        rw [← Option.some.inj inHead]
        decide
    have within := (Text.prefix_append_iff_of_apart some' apart).mp starts
    exact within.isInfix.trans inside.isInfix
  have spelled : bracket ++ (label ++ (']' :: behind)) = (bracket ++ label ++ [']']) ++ behind := by
    simp
  unfold interpolateMarks at *
  rw [Text.substitute_append_of_silent silent, spelled,
    Text.substitute_append_of_match (by simp) behind (markPattern_mark nonempty closed noLink noNote),
    labelOf_mark]

/-- No mark is found in front of the end of a label that a colon follows. -/
theorem interpolateMarks_note {front : Text} (closed : ']' ∉ front) (rest : Text) :
    interpolateMarks (front ++ (']' :: ':' :: rest)) =
      front ++ (']' :: ':' :: interpolateMarks rest) := by
  have silent (tail : Text) (some' : tail ≠ []) (inside : tail <:+ front) :
      markPattern (tail ++ (']' :: ':' :: rest)) = 0 := by
    have apart : Text.Apart bracket tail (']' :: ':' :: rest) := Or.inr fun first inHead => by
      rw [← Option.some.inj inHead]
      decide
    by_cases starts : bracket <+: tail
    · obtain ⟨label, rfl⟩ := starts
      have closedLabel : ']' ∉ label := fun member =>
        closed (inside.subset (List.mem_append_right _ member))
      rw [List.append_assoc]
      cases label with
      | nil => rfl
      | cons first others =>
        rw [markPattern, label?_append (List.cons_ne_nil _ _) closedLabel]
        rfl
    · exact markPattern_eq_zero fun begins =>
        starts ((Text.prefix_append_iff_of_apart some' apart).mp begins)
  have ends : markPattern (']' :: ':' :: rest) = 0 := rfl
  have colon : markPattern (':' :: rest) = 0 := rfl
  unfold interpolateMarks
  rw [Text.substitute_append_of_silent silent, Text.substitute_cons_of_zero ends,
    Text.substitute_cons_of_zero colon]

/-! ### Notes -/

theorem note?_spells {text label body : Text} (found : note? text = some (label, body)) :
    text = "[^".toList ++ (label ++ ("]:".toList ++ body)) := by
  simp only [note?, Option.bind_eq_bind, Option.bind_eq_some_iff] at found
  obtain ⟨⟨name, behind⟩, labelled, rest, colon, equal⟩ := found
  cases equal
  have tail : behind = [':'] ++ body := Text.after?_spells colon
  rw [label?_spells labelled, tail]
  rfl

/-- A paragraph that starts with a label and a colon is a note. -/
theorem paragraphMarkup_note {label : Text} (nonempty : label ≠ []) (closed : ']' ∉ label)
    (body : Text) :
    Hook.paragraphMarkup (bracket ++ (label ++ (']' :: ':' :: body))) =
      "<span class=\"footnote\">".toList ++ (renderNote label body ++ "</span>\n".toList) := by
  have noBlock : Hook.isRawBlock (bracket ++ (label ++ (']' :: ':' :: body))) = false :=
    Hook.isRawBlock_cons (by decide) (by decide) _
  have note : note? (bracket ++ (label ++ (']' :: ':' :: body))) = some (label, body) := by
    rw [note?, label?_append nonempty closed]
    rfl
  unfold Hook.paragraphMarkup
  rw [noBlock, isNote, interpolateNote, note]
  simp only [Bool.false_eq_true, if_false, Option.isSome_some, if_true, List.append_assoc]

end Footnote

end BookMarkup
