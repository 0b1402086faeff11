/-
This file proves how markup is searched for tags: a complete tag is found, and in text
without the start of a tag none is. So removing tags removes the one and keeps the other,
and listing tags does the opposite.
-/

import BookMarkup.Html.Tag
import BookMarkup.Proofs.Text.Substitute

namespace BookMarkup

namespace Html

/-! ### Finding tags -/

theorem tagPattern_tag {inside : Text} (nonempty : inside ≠ []) (noEnd : '>' ∉ inside)
    (rest : Text) : tagPattern ('<' :: (inside ++ '>' :: rest)) = inside.length + 2 := by
  have run : (inside ++ '>' :: rest).takeWhile (· != '>') = inside := by
    rw [List.takeWhile_append_of_pos, List.takeWhile_cons_of_neg (by decide), List.append_nil]
    intro c member
    rw [bne_iff_ne]
    rintro rfl
    exact noEnd member
  have more : (inside.isEmpty || ((inside ++ '>' :: rest).drop inside.length).isEmpty) = false := by
    rw [List.drop_left, List.isEmpty_eq_false_iff.mpr nonempty]
    rfl
  rw [tagPattern]
  simp only [run, more]
  rfl

/-- A complete tag at the front is found whole. -/
theorem pieces_tag {inside : Text} (nonempty : inside ≠ []) (noEnd : '>' ∉ inside) (rest : Text) :
    Text.pieces tagPattern ('<' :: (inside ++ '>' :: rest)) =
      .found ('<' :: (inside ++ ['>'])) :: Text.pieces tagPattern rest := by
  have whole : '<' :: (inside ++ '>' :: rest) = ('<' :: (inside ++ ['>'])) ++ rest := by
    rw [List.cons_append, List.append_assoc]
    rfl
  have taken := tagPattern_tag nonempty noEnd rest
  rw [whole] at taken ⊢
  refine Text.pieces_append_of_match (List.cons_ne_nil _ _) rest ?_
  rw [taken, List.length_cons, List.length_append]
  rfl

theorem pieces_append_of_plain {front : Text} (plain : ∀ c ∈ front, c ≠ '<') (rest : Text) :
    Text.pieces tagPattern (front ++ rest) =
      front.map Text.Piece.kept ++ Text.pieces tagPattern rest :=
  Text.pieces_append_of_quiet (fun _ rest other => tagPattern_cons_of_ne other rest) plain rest

/-! ### Removing tags -/

/-- Removing tags removes a complete tag at the front. -/
theorem stripTags_tag {inside : Text} (nonempty : inside ≠ []) (noEnd : '>' ∉ inside)
    (rest : Text) : stripTags ('<' :: (inside ++ '>' :: rest)) = stripTags rest := by
  unfold stripTags Text.substitute
  rw [pieces_tag nonempty noEnd]
  rfl

theorem stripTags_append_of_plain {front : Text} (plain : ∀ c ∈ front, c ≠ '<') (rest : Text) :
    stripTags (front ++ rest) = front ++ stripTags rest :=
  Text.substitute_append_of_pieces (pieces_append_of_plain plain rest)

/-! ### Listing tags -/

/-- The tag that a piece is, if it is one. -/
def tagOf : Text.Piece → List Text
  | .kept _ => []
  | .found source => [source]

/-- The tags in a text, from left to right. -/
def tags (text : Text) : List Text :=
  (Text.pieces tagPattern text).flatMap tagOf

theorem flatMap_tagOf_kept (front : Text) : (front.map Text.Piece.kept).flatMap tagOf = [] := by
  rw [List.flatMap_map]
  exact List.flatMap_eq_nil_iff.mpr fun _ _ => rfl

end Html

end BookMarkup
