/-
This file proves which marker gives a heading its identifier. The marker has to end the
heading, but it may start anywhere on the last line, and the search for its start goes
from left to right. So the marker that an author puts at the end is read exactly if no
other one starts earlier on that line; otherwise the identifier reaches back to the first
start, and the text of the heading ends there.
-/

import BookMarkup.Heading.Marker
import BookMarkup.Proofs.Text.Occurrence
import BookMarkup.Proofs.Text.Trim

namespace BookMarkup

namespace Heading

/-! ### The last line -/

theorem splitLastLine_eq (text : Text) :
    splitLastLine text = ((text.reverse.dropWhile (· != '\n')).reverse,
      (text.reverse.takeWhile (· != '\n')).reverse) := by
  have whole := List.takeWhile_append_dropWhile (p := (· != '\n')) (l := text.reverse)
  have cut := congrArg List.reverse whole
  rw [List.reverse_append, List.reverse_reverse] at cut
  have front {before line : Text} (joined : before ++ line = text) :
      text.take (text.length - line.length) = before := by
    rw [← joined, List.length_append, Nat.add_sub_cancel, List.take_left]
  rw [splitLastLine, front cut]

theorem splitLastLine_spells (text : Text) :
    text = (splitLastLine text).1 ++ (splitLastLine text).2 ∧ '\n' ∉ (splitLastLine text).2 := by
  rw [splitLastLine_eq]
  constructor
  · rw [← List.reverse_append, List.takeWhile_append_dropWhile, List.reverse_reverse]
  · intro member
    have inside := List.all_eq_true.mp List.all_takeWhile '\n' (List.mem_reverse.mp member)
    exact absurd inside (by decide)

/-- What stands in front of the last line ends the line before it. -/
theorem last_of_splitLastLine (text : Text) :
    ∀ last ∈ (splitLastLine text).1.getLast?, last = '\n' := by
  intro last inLast
  rw [splitLastLine_eq, List.getLast?_reverse] at inLast
  simpa using Text.stops_dropWhile (· != '\n') text.reverse last inLast

theorem splitLastLine_append {above line : Text} (ended : ∀ last ∈ above.getLast?, last = '\n')
    (oneLine : '\n' ∉ line) : splitLastLine (above ++ line) = (above, line) := by
  have inLine : ∀ c ∈ line.reverse, (c != '\n') = true := by
    intro c member
    rw [bne_iff_ne]
    rintro rfl
    exact oneLine (List.mem_reverse.mp member)
  have stops : above.reverse.takeWhile (· != '\n') = [] ∧
      above.reverse.dropWhile (· != '\n') = above.reverse := by
    cases above using List.reverseRecOn with
    | nil => exact ⟨rfl, rfl⟩
    | append_singleton front last =>
      rw [ended last List.getLast?_concat, List.reverse_concat]
      exact ⟨rfl, rfl⟩
  rw [splitLastLine_eq, List.reverse_append, List.takeWhile_append_of_pos inLine,
    List.dropWhile_append_of_pos inLine, stops.1, stops.2, List.append_nil, List.reverse_reverse,
    List.reverse_reverse]

/-! ### The parts of a marked text -/

theorem beforeClosingBrace?_spells {text inner : Text}
    (found : beforeClosingBrace? text = some inner) :
    ∃ behind, text = inner ++ (['}'] ++ behind) ∧ (behind = [] ∨ behind = ['\n']) := by
  unfold beforeClosingBrace? at found
  cases lineEnd : Text.before? ['\n'] text with
  | none =>
    rw [lineEnd] at found
    refine ⟨[], ?_, Or.inl rfl⟩
    rw [List.append_nil]
    exact Text.before?_spells found
  | some body =>
    rw [lineEnd] at found
    have inBody : body = inner ++ ['}'] := Text.before?_spells found
    refine ⟨['\n'], ?_, Or.inr rfl⟩
    rw [Text.before?_spells lineEnd, inBody, List.append_assoc]

theorem beforeClosingBrace?_append (inner : Text) :
    beforeClosingBrace? (inner ++ ['}']) = some inner := by
  have noLineEnd : Text.before? ['\n'] (inner ++ ['}']) = none := by
    refine if_neg fun ends => ?_
    obtain ⟨front, equal⟩ := List.isSuffixOf_iff_suffix.mp ends
    exact absurd (List.append_inj_right' equal rfl) (by decide)
  rw [beforeClosingBrace?, noLineEnd]
  exact Text.before?_append inner ['}']

theorem marked?_spells {text : Text} {marked : Marked} (found : marked? text = some marked) :
    ∃ visible behind,
      text = visible ++ (['{', '#'] ++ (marked.identifier ++ (['}'] ++ behind))) ∧
      '\n' ∉ marked.identifier ∧ (behind = [] ∨ behind = ['\n']) ∧
      marked.text = Text.trimEnd ((Text.before? noBreakSpace visible).getD visible) := by
  simp only [marked?, Option.bind_eq_bind, Option.bind_eq_some_iff] at found
  obtain ⟨inner, brace, ⟨before, identifier⟩, broken, shown⟩ := found
  split at shown
  · cases shown
  · cases shown
    obtain ⟨behind, whole, atEnd⟩ := beforeClosingBrace?_spells brace
    obtain ⟨lines, oneLine⟩ := splitLastLine_spells inner
    have line := Text.breakOn_spells broken
    refine ⟨(splitLastLine inner).1 ++ before, behind, ?_, ?_, atEnd, rfl⟩
    · rw [whole]
      conv_lhs => rw [lines, line]
      simp only [List.append_assoc]
    · intro member
      refine oneLine ?_
      rw [line]
      exact List.mem_append_right _ member

/-! ### The first start -/

/-- The identifier reaches from the first start of a marker on the last line to the brace at the
end. -/
theorem marked?_of_first (above before identifier : Text)
    (ended : ∀ last ∈ above.getLast?, last = '\n') (oneLine : '\n' ∉ before)
    (first : ¬ ['{', '#'] <:+: before) (nonempty : identifier ≠ []) (inLine : '\n' ∉ identifier) :
    marked? (above ++ (before ++ (['{', '#'] ++ (identifier ++ ['}'])))) =
      some ⟨identifier,
        Text.trimEnd ((Text.before? noBreakSpace (above ++ before)).getD (above ++ before))⟩ := by
  have spelled : above ++ (before ++ (['{', '#'] ++ (identifier ++ ['}']))) =
      (above ++ (before ++ (['{', '#'] ++ identifier))) ++ ['}'] := by
    simp only [List.append_assoc]
  have line : splitLastLine (above ++ (before ++ (['{', '#'] ++ identifier))) =
      (above, before ++ (['{', '#'] ++ identifier)) :=
    splitLastLine_append ended
      (List.not_mem_append oneLine (List.not_mem_append (by decide) inLine))
  have broken : Text.breakOn ['{', '#'] (before ++ (['{', '#'] ++ identifier)) =
      some (before, identifier) := by
    have absent : Text.breakOn ['{', '#'] before = none :=
      (Text.breakOn_eq_none_iff (by decide)).mpr first
    have apart : Text.Apart ['{', '#'] before (['{', '#'] ++ identifier) :=
      Or.inr fun first inHead => by
        rw [← Option.some.inj inHead]
        decide
    rw [Text.breakOn_append_of_none apart absent, Text.breakOn_append (by decide)]
    exact congrArg (fun front => some (front, identifier)) (List.append_nil before)
  have named : identifier.isEmpty = false := List.isEmpty_eq_false_iff.mpr nonempty
  rw [spelled, marked?, beforeClosingBrace?_append]
  simp only [Option.bind_eq_bind, Option.bind_some, line, broken, named, Bool.false_eq_true,
    if_false]

/-! ### The marker at the end -/

/-- What may separate the marker from the last word of a heading: a space, or the no-break space
that joins the two. -/
def separators : List Text :=
  [[' '], noBreakSpace]

theorem separator_plain {separator : Text} (separates : separator ∈ separators) :
    '\n' ∉ separator ∧ ¬ ['{', '#'] <:+: separator ∧ ∀ first ∈ separator.head?, first ∉ ['#'] := by
  revert separator
  show ∀ separator ∈ separators, _
  decide

theorem trimEnd_separated {separator : Text} (separates : separator ∈ separators) (title : Text) :
    Text.trimEnd ((Text.before? noBreakSpace (title ++ separator)).getD (title ++ separator)) =
      Text.trimEnd title := by
  rcases List.mem_cons.mp separates with rfl | joined
  · have noJoin : Text.before? noBreakSpace (title ++ [' ']) = none := by
      refine if_neg fun ends => ?_
      obtain ⟨front, equal⟩ := List.isSuffixOf_iff_suffix.mp ends
      have last := congrArg List.getLast? equal
      rw [List.getLast?_append, List.getLast?_concat] at last
      cases last
    rw [noJoin, Option.getD_none]
    exact Text.trimEnd_append_blanks title (by decide)
  · rw [List.mem_singleton.mp joined, Text.before?_append, Option.getD_some]

/-- A marker at the end of a heading is read, and the rest of the heading is its text, exactly if
no marker starts earlier on the last line. If one does, the identifier is all that stands between
the first start and the brace at the end, and the heading keeps what stands in front of that. -/
theorem trailing_marker_is_read_iff (title : Text) {separator identifier : Text}
    (separates : separator ∈ separators) (nonempty : identifier ≠ [])
    (inLine : '\n' ∉ identifier) :
    let marked := marked? (title ++ (separator ++ (['{', '#'] ++ (identifier ++ ['}']))))
    let above := (splitLastLine title).1
    let line := (splitLastLine title).2
    (marked = some ⟨identifier, Text.trimEnd title⟩ ↔ ¬ ['{', '#'] <:+: line) ∧
    ∀ before behind, Text.breakOn ['{', '#'] line = some (before, behind) →
      marked = some ⟨behind ++ (separator ++ (['{', '#'] ++ identifier)),
        Text.trimEnd ((Text.before? noBreakSpace (above ++ before)).getD (above ++ before))⟩ := by
  intro marked above line
  have whole : title = above ++ line := (splitLastLine_spells title).1
  have oneLine : '\n' ∉ line := (splitLastLine_spells title).2
  have ended : ∀ last ∈ above.getLast?, last = '\n' := last_of_splitLastLine title
  clear_value above line
  subst whole
  obtain ⟨noLineEnd, noStart, apart⟩ := separator_plain separates
  have earlier (before behind : Text)
      (broken : Text.breakOn ['{', '#'] line = some (before, behind)) :
      marked = some ⟨behind ++ (separator ++ (['{', '#'] ++ identifier)),
        Text.trimEnd ((Text.before? noBreakSpace (above ++ before)).getD (above ++ before))⟩ := by
    have spelled := Text.breakOn_spells broken
    subst spelled
    simp only [List.mem_append, not_or] at oneLine
    have inRest : '\n' ∉ behind ++ (separator ++ (['{', '#'] ++ identifier)) :=
      List.not_mem_append oneLine.2 (List.not_mem_append noLineEnd
        (List.not_mem_append (by decide) inLine))
    have read := marked?_of_first above before _ ended oneLine.1.1
      (Text.not_infix_before_of_breakOn (by decide) broken) (by simp) inRest
    rw [← read]
    simp only [marked, List.append_assoc]
  refine ⟨⟨fun read inside => ?_, fun absent => ?_⟩, earlier⟩
  · obtain ⟨⟨before, behind⟩, broken⟩ :=
      Option.isSome_iff_exists.mp ((Text.occursIn_iff (by decide)).mpr inside)
    rw [earlier before behind broken] at read
    have lengths := congrArg List.length (Marked.mk.inj (Option.some.inj read)).1
    simp only [List.length_append, List.length_cons, List.length_nil] at lengths
    omega
  · have first : ¬ ['{', '#'] <:+: line ++ separator :=
      Text.not_infix_append (by decide) (Or.inr apart) absent noStart
    have read := marked?_of_first above (line ++ separator) identifier ended
      (List.not_mem_append oneLine noLineEnd) first nonempty inLine
    rw [← trimEnd_separated separates, List.append_assoc, ← read]
    simp only [marked, List.append_assoc]

/-- Braces on the last line and a marker on an earlier one do not keep the marker at the end from
being read. -/
theorem trailing_marker_behind_earlier_line :
    let title := "One ".toList ++ ['{', '#', 'a', '}', '\n'] ++ "two \x7d \x7b".toList
    [' '] ∈ separators ∧ "b".toList ≠ [] ∧ '\n' ∉ "b".toList ∧
      ¬ ['{', '#'] <:+: (splitLastLine title).2 ∧
      marked? (title ++ ([' '] ++ (['{', '#'] ++ ("b".toList ++ ['}'])))) =
        some ⟨"b".toList, title⟩ := by
  intro title
  have separates : [' '] ∈ separators := List.mem_cons_self
  have nonempty : "b".toList ≠ [] := by decide
  have inLine : '\n' ∉ "b".toList := by decide
  have absent : ¬ ['{', '#'] <:+: (splitLastLine title).2 := by decide
  refine ⟨separates, nonempty, inLine, absent, ?_⟩
  exact (trailing_marker_is_read_iff title separates nonempty inLine).1.mpr absent

/-- A marker at the end of a heading may not be read: here one starts in front of it. -/
theorem earlier_marker_may_be_read :
    ¬ ∀ title identifier separator, separator ∈ separators → identifier ≠ [] →
      '{' ∉ identifier → '}' ∉ identifier → '\n' ∉ identifier →
        marked? (title ++ (separator ++ (['{', '#'] ++ (identifier ++ ['}'])))) =
          some ⟨identifier, Text.trimEnd title⟩ := by
  intro always
  have read := always ("A ".toList ++ ['{', '#', 'b', '}']) "d".toList [' '] List.mem_cons_self
    (by decide) (by decide) (by decide) (by decide)
  exact absurd read (by decide)

end Heading

end BookMarkup
