/-
This file proves how a scan and a substitution go through a text: a character at which
the pattern does not match is kept, and a front that the pattern takes whole is found and
replaced whole. What holds of nothing, and stays true in front of one more piece, holds of
every text.
-/

import BookMarkup.Text.Scan

namespace BookMarkup

namespace Text

variable {pattern : Pattern} {replacement : Text → Text}

theorem piecesFrom_eq_drop (pattern : Pattern) (skip : Nat) (text : Text) :
    piecesFrom pattern skip text = pieces pattern (text.drop skip) := by
  induction text generalizing skip with
  | nil => cases skip <;> rfl
  | cons head rest inductionHypothesis =>
    cases skip with
    | zero => rfl
    | succ skip => exact inductionHypothesis skip

theorem pieces_cons_of_zero {head : Char} {rest : Text} (noMatch : pattern (head :: rest) = 0) :
    pieces pattern (head :: rest) = .kept head :: pieces pattern rest := by
  rw [pieces, piecesFrom, noMatch]
  rfl

/-- A front that the pattern takes whole is one piece. -/
theorem pieces_append_of_match {front : Text} (nonempty : front ≠ []) (rest : Text)
    (taken : pattern (front ++ rest) = front.length) :
    pieces pattern (front ++ rest) = .found front :: pieces pattern rest := by
  obtain ⟨head, tail, rfl⟩ := List.exists_cons_of_ne_nil nonempty
  rw [List.cons_append] at taken ⊢
  rw [pieces, piecesFrom, taken, List.length_cons]
  simp only [List.take_left, piecesFrom_eq_drop, List.drop_left]

theorem substitute_cons_of_zero {head : Char} {rest : Text}
    (noMatch : pattern (head :: rest) = 0) :
    substitute pattern replacement (head :: rest) =
      head :: substitute pattern replacement rest := by
  unfold substitute
  rw [pieces_cons_of_zero noMatch]
  rfl

/-- A front that the pattern takes whole is replaced. -/
theorem substitute_append_of_match {front : Text} (nonempty : front ≠ []) (rest : Text)
    (taken : pattern (front ++ rest) = front.length) :
    substitute pattern replacement (front ++ rest) =
      replacement front ++ substitute pattern replacement rest := by
  unfold substitute
  rw [pieces_append_of_match nonempty rest taken]
  rfl

/-- A front in which the pattern matches nowhere is kept, character by character. -/
theorem pieces_append_of_silent {front rest : Text}
    (silent : ∀ tail, tail ≠ [] → tail <:+ front → pattern (tail ++ rest) = 0) :
    pieces pattern (front ++ rest) = front.map Piece.kept ++ pieces pattern rest := by
  induction front with
  | nil => rfl
  | cons head front inductionHypothesis =>
    have here : pattern (head :: (front ++ rest)) = 0 :=
      silent (head :: front) (List.cons_ne_nil _ _) List.suffix_rfl
    have later := inductionHypothesis fun tail nonempty inside =>
      silent tail nonempty (inside.trans (List.suffix_cons head front))
    rw [List.cons_append, pieces_cons_of_zero here, later, List.map_cons, List.cons_append]

/-- So is one of characters at which the pattern never matches. -/
theorem pieces_append_of_quiet {holds : Char → Prop}
    (quiet : ∀ head rest, holds head → pattern (head :: rest) = 0) {front : Text}
    (all : ∀ c ∈ front, holds c) (rest : Text) :
    pieces pattern (front ++ rest) = front.map Piece.kept ++ pieces pattern rest := by
  refine pieces_append_of_silent fun tail nonempty inside => ?_
  obtain ⟨head, others, rfl⟩ := List.exists_cons_of_ne_nil nonempty
  exact quiet head (others ++ rest) (all head (inside.subset List.mem_cons_self))

theorem substitute_append_of_pieces {front rest : Text}
    (kept : pieces pattern (front ++ rest) = front.map Piece.kept ++ pieces pattern rest) :
    substitute pattern replacement (front ++ rest) =
      front ++ substitute pattern replacement rest := by
  unfold substitute
  rw [kept, List.flatMap_append, List.flatMap_map]
  exact congrArg (· ++ _) (List.flatMap_singleton' front)

/-- A front in which the pattern matches nowhere is not changed. -/
theorem substitute_append_of_silent {front rest : Text}
    (silent : ∀ tail, tail ≠ [] → tail <:+ front → pattern (tail ++ rest) = 0) :
    substitute pattern replacement (front ++ rest) =
      front ++ substitute pattern replacement rest :=
  substitute_append_of_pieces (pieces_append_of_silent silent)

/-- Nor is one of characters at which the pattern never matches. -/
theorem substitute_append_of_quiet {holds : Char → Prop}
    (quiet : ∀ head rest, holds head → pattern (head :: rest) = 0) {front : Text}
    (all : ∀ c ∈ front, holds c) (rest : Text) :
    substitute pattern replacement (front ++ rest) =
      front ++ substitute pattern replacement rest :=
  substitute_append_of_pieces (pieces_append_of_quiet quiet all rest)

/-! ### Scanning piece by piece -/

/-- Whether a pattern never takes more characters than there are. -/
def Fits (pattern : Pattern) : Prop :=
  ∀ text, pattern text ≤ text.length

/-- What holds of the empty text, and of a text if it holds of what is behind the first piece of
it, holds of every text. -/
@[elab_as_elim]
theorem scan_induction {pattern : Pattern} (fits : Fits pattern) {motive : Text → Prop}
    (nil : motive [])
    (kept : ∀ head rest, pattern (head :: rest) = 0 → motive rest → motive (head :: rest))
    (found : ∀ front rest, front ≠ [] → pattern (front ++ rest) = front.length → motive rest →
      motive (front ++ rest))
    (text : Text) : motive text := by
  induction size : text.length using Nat.strongRecOn generalizing text with
  | ind count inductionHypothesis =>
    cases text with
    | nil => exact nil
    | cons head rest =>
      have room := fits (head :: rest)
      cases taken : pattern (head :: rest) with
      | zero =>
        have shorter : rest.length < count := by
          rw [← size]
          exact Nat.lt_succ_self _
        exact kept head rest taken (inductionHypothesis _ shorter rest rfl)
      | succ more =>
        rw [taken] at room
        have shorter : ((head :: rest).drop (more + 1)).length < count := by
          rw [List.length_drop, ← size]
          omega
        have whole := found ((head :: rest).take (more + 1)) ((head :: rest).drop (more + 1))
          (List.cons_ne_nil _ _) (by rw [List.take_append_drop, List.length_take_of_le room, taken])
          (inductionHypothesis _ shorter _ rfl)
        rwa [List.take_append_drop] at whole

end Text

end BookMarkup
