/-
This file relates what is done with the line ends of listings: they are replaced by a text,
or a text is cut into lines at them. The text between two line ends is the same either way,
so replacing is joining the lines with the replacement. A carriage return belongs to a line
end only directly in front of a newline, and that is the one thing to mind where a text is
put together from parts.
-/

import BookMarkup.Listing.Row
import BookMarkup.Proofs.Text.Line
import Mathlib.Data.List.Infix

namespace BookMarkup

namespace Listing

variable {replacement : Text}

/-! ### Replacing part by part -/

theorem replaceLineEnds_cons {head : Char} {rest : Text} (other : head ≠ '\n')
    (apart : head = '\r' → rest.head? ≠ some '\n') :
    replaceLineEnds replacement (head :: rest) = head :: replaceLineEnds replacement rest := by
  refine replaceLineEnds.eq_3 replacement head rest ?_ other
  rintro behind rfl rfl
  exact apart rfl rfl

/-- A text may be taken apart anywhere but inside a line end. -/
theorem replaceLineEnds_append {left right : Text}
    (apart : left.getLast? = some '\r' → right.head? ≠ some '\n') :
    replaceLineEnds replacement (left ++ right) =
      replaceLineEnds replacement left ++ replaceLineEnds replacement right := by
  have behind {head : Char} {rest : Text} (last : rest.getLast? = some '\r') :
      (head :: rest).getLast? = some '\r' := by
    rw [List.getLast?_cons, last]
    rfl
  fun_induction replaceLineEnds replacement left with
  | case1 rest inductionHypothesis =>
    have later := inductionHypothesis fun last => apart (behind (behind last))
    rw [List.append_assoc, ← later]
    rfl
  | case2 rest inductionHypothesis =>
    have later := inductionHypothesis fun last => apart (behind last)
    rw [List.append_assoc, ← later]
    rfl
  | case3 head rest noReturn other inductionHypothesis =>
    have later := inductionHypothesis fun last => apart (behind last)
    rw [List.cons_append, replaceLineEnds_cons other, later, List.cons_append]
    rintro rfl
    cases rest with
    | nil => exact apart rfl
    | cons second rest =>
      intro lineEnd
      exact noReturn rest rfl (congrArg (· :: rest) (Option.some.inj lineEnd))
  | case4 => rfl

theorem replaceLineEnds_eq_self (replacement : Text) {text : Text} (noLineEnd : '\n' ∉ text) :
    replaceLineEnds replacement text = text := by
  fun_induction replaceLineEnds replacement text with
  | case1 rest _ => simp at noLineEnd
  | case2 rest _ => simp at noLineEnd
  | case3 head rest _ _ inductionHypothesis =>
    simp only [List.mem_cons, not_or] at noLineEnd
    rw [inductionHypothesis noLineEnd.2]
  | case4 => rfl

/-! ### Lines -/

theorem sourceLines_ne_nil (text : Text) : sourceLines text ≠ [] := by
  fun_cases sourceLines text with
  | case1 rest => exact List.cons_ne_nil _ _
  | case2 rest => exact List.cons_ne_nil _ _
  | case3 head rest =>
    unfold consFirst
    split <;> exact List.cons_ne_nil _ _
  | case4 => exact List.cons_ne_nil _ _

/-- Replacing the line ends is joining the lines. -/
theorem replaceLineEnds_eq_join (replacement text : Text) :
    replaceLineEnds replacement text = Text.join replacement (sourceLines text) := by
  fun_induction sourceLines text with
  | case1 rest inductionHypothesis =>
    rw [Text.join_cons _ _ (sourceLines_ne_nil rest), ← inductionHypothesis]
    rfl
  | case2 rest inductionHypothesis =>
    rw [Text.join_cons _ _ (sourceLines_ne_nil rest), ← inductionHypothesis]
    rfl
  | case3 head rest noReturn other inductionHypothesis =>
    obtain ⟨line, others, equal⟩ := List.exists_cons_of_ne_nil (sourceLines_ne_nil rest)
    rw [replaceLineEnds.eq_3 _ _ _ noReturn other, inductionHypothesis, equal]
    cases others <;> rfl
  | case4 => rfl

/-- The lines of a text are those between newlines once each line end is a single newline. -/
theorem sourceLines_eq_lines_replaceLineEnds (text : Text) :
    sourceLines text = Text.lines (replaceLineEnds ['\n'] text) := by
  fun_induction sourceLines text with
  | case1 rest inductionHypothesis =>
    rw [inductionHypothesis]
    exact (Text.lines_append_lineEnd [] _).symm
  | case2 rest inductionHypothesis =>
    rw [inductionHypothesis]
    exact (Text.lines_append_lineEnd [] _).symm
  | case3 head rest noReturn other inductionHypothesis =>
    rw [replaceLineEnds.eq_3 _ _ _ noReturn other, inductionHypothesis]
    unfold Text.lines
    rw [Text.parts, if_neg other]
    rfl
  | case4 => rfl

theorem sourceLines_of_oneLine {text : Text} (oneLine : '\n' ∉ text) :
    sourceLines text = [text] := by
  rw [sourceLines_eq_lines_replaceLineEnds, replaceLineEnds_eq_self _ oneLine,
    Text.lines_of_oneLine oneLine]

theorem lineEnd_not_mem_of_mem_sourceLines {text line : Text} (member : line ∈ sourceLines text) :
    '\n' ∉ line := by
  rw [sourceLines_eq_lines_replaceLineEnds] at member
  exact fun inLine => (Text.mem_of_mem_lines member _ inLine).2 rfl

/-- Lines are written with the characters of the text. -/
theorem mem_of_mem_sourceLines {text line : Text} (member : line ∈ sourceLines text) {c : Char}
    (inLine : c ∈ line) : c ∈ text := by
  fun_induction sourceLines text generalizing line with
  | case1 rest inductionHypothesis =>
    rcases List.mem_cons.mp member with rfl | later
    · cases inLine
    · exact List.mem_cons_of_mem _ (List.mem_cons_of_mem _ (inductionHypothesis later inLine))
  | case2 rest inductionHypothesis =>
    rcases List.mem_cons.mp member with rfl | later
    · cases inLine
    · exact List.mem_cons_of_mem _ (inductionHypothesis later inLine)
  | case3 head rest _ _ inductionHypothesis =>
    obtain ⟨first, others, equal⟩ := List.exists_cons_of_ne_nil (sourceLines_ne_nil rest)
    rw [equal] at member inductionHypothesis
    rcases List.mem_cons.mp member with rfl | later
    · rcases List.mem_cons.mp inLine with rfl | inFirst
      · exact List.mem_cons_self
      · exact List.mem_cons_of_mem _ (inductionHypothesis List.mem_cons_self inFirst)
    · exact List.mem_cons_of_mem _ (inductionHypothesis (List.mem_cons_of_mem _ later) inLine)
  | case4 =>
    rw [List.mem_singleton.mp member] at inLine
    cases inLine

theorem sourceLines_eq_lines {text : Text} (noReturn : '\r' ∉ text) :
    sourceLines text = Text.lines text := by
  have kept : replaceLineEnds ['\n'] text = text := by
    fun_induction replaceLineEnds ['\n'] text with
    | case1 rest _ => simp at noReturn
    | case2 rest inductionHypothesis =>
      simp only [List.mem_cons, not_or] at noReturn
      rw [inductionHypothesis noReturn.2]
      rfl
    | case3 head rest _ _ inductionHypothesis =>
      simp only [List.mem_cons, not_or] at noReturn
      rw [inductionHypothesis noReturn.2]
    | case4 => rfl
  rw [sourceLines_eq_lines_replaceLineEnds, kept]

/-! ### Returns in front of newlines -/

/-- Whether every carriage return of a text stands directly in front of a newline. -/
def ReturnsEndLines (text : Text) : Prop :=
  ∀ tail ∈ text.tails, tail.head? = some '\r' → tail.tail.head? = some '\n'

instance decidableReturnsEndLines : DecidablePred ReturnsEndLines := fun text =>
  inferInstanceAs (Decidable (∀ tail ∈ text.tails, _ → _))

theorem ReturnsEndLines.of_append {left right : Text} (returns : ReturnsEndLines (left ++ right)) :
    ReturnsEndLines right := fun tail member =>
  returns tail (List.mem_tails _ _ |>.mpr
    ((List.mem_tails _ _ |>.mp member).trans (List.suffix_append left right)))

theorem ReturnsEndLines.head? {left right : Text} (returns : ReturnsEndLines (left ++ right))
    (last : left.getLast? = some '\r') : right.head? = some '\n' := by
  obtain ⟨front, rfl⟩ := List.getLast?_eq_some_iff.mp last
  rw [List.append_assoc] at returns
  exact returns.of_append _ (List.mem_tails _ _ |>.mpr List.suffix_rfl) rfl

/-! ### Single newlines -/

theorem replaceLineEnds_singleton (c : Char) : replaceLineEnds ['\n'] [c] = [c] := by
  by_cases lineEnd : c = '\n'
  · rw [lineEnd]
    rfl
  · exact replaceLineEnds_eq_self _ fun member => lineEnd (List.mem_singleton.mp member).symm

/-- Writing each line end as a newline is replacing a return with a newline by the newline. -/
theorem replaceAll_returns (text : Text) :
    Text.replaceAll ['\r', '\n'] ['\n'] text = replaceLineEnds ['\n'] text := by
  unfold Text.replaceAll
  fun_induction replaceLineEnds ['\n'] text with
  | case1 rest inductionHypothesis =>
    rw [← inductionHypothesis]
    rfl
  | case2 rest inductionHypothesis =>
    rw [← inductionHypothesis]
    rfl
  | case3 head rest noReturn other inductionHypothesis =>
    have absent : ¬ ['\r', '\n'].isPrefixOf (head :: rest) = true := by
      rw [List.isPrefixOf_iff_prefix]
      rintro ⟨behind, spelled⟩
      obtain ⟨rfl, rfl⟩ := List.cons.inj spelled
      exact noReturn behind rfl rfl
    rw [Text.replaceFrom, if_neg absent, inductionHypothesis]
  | case4 => rfl

theorem count_replaceLineEnds (text : Text) :
    (replaceLineEnds ['\n'] text).count '\n' = text.count '\n' := by
  fun_induction replaceLineEnds ['\n'] text with
  | case1 rest inductionHypothesis =>
    rw [List.singleton_append, List.count_cons_self, inductionHypothesis,
      List.count_cons_of_ne (by decide), List.count_cons_self]
  | case2 rest inductionHypothesis =>
    rw [List.singleton_append, List.count_cons_self, inductionHypothesis, List.count_cons_self]
  | case3 head rest _ other inductionHypothesis =>
    rw [List.count_cons_of_ne other, inductionHypothesis, List.count_cons_of_ne other]
  | case4 => rfl

end Listing

end BookMarkup
