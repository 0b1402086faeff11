/-
This file proves what a run of text starts with once it is rendered. Escaping and joining
words neither make nor destroy a footnote mark, so a run that starts with a mark starts
with its superscript, and any other run starts with a character that opens no tag. Blanks
in front change nothing about it, with one exception: if the last space of the run stands
among them, joining words writes a no-break space in front of the mark.
-/

import BookMarkup.Proofs.Footnote.Link

namespace BookMarkup

namespace Footnote

/-! ### The start of a run -/

/-- A run of text as it is searched for marks. -/
def shownRun (source : Text) : Text :=
  Text.joinLastWords (Html.escapeContent source)

/-- A text does not start with a bracket, or it starts with one that is never closed, or with a
label between brackets. -/
theorem bracket_cases (text : Text) :
    ¬ bracket <+: text ∨ (∃ rest, text = bracket ++ rest ∧ ']' ∉ rest) ∨
      ∃ label behind, ']' ∉ label ∧ text = bracket ++ (label ++ (']' :: behind)) := by
  by_cases starts : bracket <+: text
  · obtain ⟨rest, rfl⟩ := starts
    by_cases closes : ']' ∈ rest
    · obtain ⟨label, behind, rfl, closed⟩ := List.eq_append_cons_of_mem closes
      exact Or.inr (Or.inr ⟨label, behind, closed, rfl⟩)
    · exact Or.inr (Or.inl ⟨rest, rfl, closes⟩)
  · exact Or.inl starts

theorem markPattern_eq_zero_of_not_mem {rest : Text} (unclosed : ']' ∉ rest) :
    markPattern (bracket ++ rest) = 0 := by
  have nothing : label? (bracket ++ rest) = none := by
    cases found : label? (bracket ++ rest) with
    | none => rfl
    | some parts =>
      have spelled := label?_spells found
      rw [← bracket, List.append_cancel_left_eq] at spelled
      exact absurd (spelled ▸ by simp) unclosed
  rw [markPattern, nothing]

theorem markPattern_label {label : Text} (closed : ']' ∉ label) (behind : Text) :
    markPattern (bracket ++ (label ++ (']' :: behind))) = 0 ↔
      label = [] ∨ behind.head? = some '(' ∨ behind.head? = some ':' := by
  by_cases nonempty : label = []
  · subst nonempty
    exact iff_of_true rfl (Or.inl rfl)
  · rw [markPattern, label?_append nonempty closed]
    simp [nonempty, or_iff_not_imp_left]

/-! ### Escaping and joining words -/

/-- A run holds no angle bracket once it is escaped, and joining words adds none. -/
theorem not_reserved_of_mem_shownRun {text : Text} {c : Char} (member : c ∈ shownRun text) :
    Html.isReservedInContent c = false := by
  have inSpace : ∀ c ∈ noBreakSpace, Html.isReservedInContent c = false := by decide
  unfold shownRun at member
  rcases Text.joinLastWords_cases (Html.escapeContent text) with same | changed
  · rw [same] at member
    exact Html.not_reserved_of_mem_escapeContent member
  · rw [changed] at member
    exact (mem_joinLastSpace member).elim Html.not_reserved_of_mem_escapeContent (inSpace c)

theorem prefix_shownRun_iff {front text : Text} (noSpace : ' ' ∉ front) (other : '&' ∉ front) :
    front <+: shownRun text ↔ front <+: Html.escapeContent text := by
  unfold shownRun
  rcases Text.joinLastWords_cases (Html.escapeContent text) with same | changed
  · rw [same]
  · rw [changed, Text.prefix_joinLastSpace_iff noSpace other]

/-- A run starts with a bracket if its source does. -/
theorem bracket_prefix_of_shownRun {text : Text} (starts : bracket <+: shownRun text) :
    bracket <+: text := by
  rw [prefix_shownRun_iff (by decide) (by decide)] at starts
  cases text with
  | nil => exact starts
  | cons head rest =>
    rcases Html.escapeContent_cons head rest with ⟨-, kept⟩ | ⟨-, name, -, written⟩
    · rw [kept] at starts
      obtain ⟨equal, behind⟩ := List.cons_prefix_cons.mp starts
      have caret := (Html.head?_escapeContent (by decide)).mp
        ((List.singleton_prefix_iff_head?_eq_some).mp behind)
      exact List.cons_prefix_cons.mpr
        ⟨equal, (List.singleton_prefix_iff_head?_eq_some).mpr caret⟩
    · rw [written] at starts
      exact absurd (List.cons_prefix_cons.mp starts).1 (by decide)

/-- A run that starts with a visible character shows one at its start that opens no tag. -/
theorem shownRun_cons {head : Char} (rest : Text) (visible : isBlank head = false) :
    ∃ first others, shownRun (head :: rest) = first :: others ∧ isBlank first = false ∧
      first ≠ '<' := by
  unfold shownRun
  rcases Html.escapeContent_cons head rest with ⟨other, kept⟩ | ⟨-, name, -, written⟩
  · obtain ⟨others, joined⟩ := Text.joinLastWords_cons head (Html.escapeContent rest)
    exact ⟨head, others, kept ▸ joined, visible, other⟩
  · obtain ⟨others, joined⟩ := Text.joinLastWords_cons '&' (name ++ Html.escapeContent rest)
    exact ⟨'&', others, written ▸ joined, by decide, by decide⟩

theorem mem_shownRun_iff {text : Text} {c : Char} (untouched : Html.isTouched c = false)
    (noSpace : c ≠ ' ') (other : c ∉ noBreakSpace) : c ∈ shownRun text ↔ c ∈ text := by
  unfold shownRun
  rcases Text.joinLastWords_cases (Html.escapeContent text) with same | changed
  · rw [same, Html.mem_escapeContent untouched]
  · rw [changed, mem_joinLastSpace_iff noSpace other, Html.mem_escapeContent untouched]

/-- A run that starts with a label shows the label, and goes on behind it as its source does. -/
theorem shownRun_label (label behind : Text) :
    ∃ behind', shownRun (bracket ++ (label ++ (']' :: behind))) =
        bracket ++ (shownLabel label behind ++ (']' :: behind')) ∧
      ∀ c, Html.isTouched c = false → c ≠ ' ' →
        (behind'.head? = some c ↔ behind.head? = some c) := by
  obtain ⟨front', behind', joined, atFront, atEnd⟩ := joinLastWords_escapeContent [] label behind
  have nothing : front' = [] := by rcases atFront with rfl | rfl <;> rfl
  rw [nothing] at joined
  refine ⟨behind', joined, fun c untouched noSpace => ?_⟩
  have other : '&' ∉ [c] := by
    rintro (_ | ⟨_, ⟨⟩⟩)
    exact absurd untouched (by decide)
  rcases atEnd with rfl | rfl
  · exact Html.head?_escapeContent untouched
  · rw [← List.singleton_prefix_iff_head?_eq_some,
      Text.prefix_joinLastSpace_iff (fun member => noSpace (List.mem_singleton.mp member).symm) other,
      List.singleton_prefix_iff_head?_eq_some]
    exact Html.head?_escapeContent untouched

theorem shownLabel_eq_nil_iff (label behind : Text) :
    shownLabel label behind = [] ↔ label = [] := by
  constructor
  · intro nothing
    by_contra nonempty
    unfold shownLabel at nothing
    split_ifs at nothing
    · exact escapeContent_ne_nil nonempty nothing
    · exact joinLastSpace_ne_nil (escapeContent_ne_nil nonempty) nothing
  · rintro rfl
    exact ite_self []

/-- A run starts with a mark exactly if its source does. -/
theorem markPattern_shownRun (source : Text) :
    markPattern (shownRun source) = 0 ↔ markPattern source = 0 := by
  rcases bracket_cases source with other | ⟨rest, rfl, unclosed⟩ | ⟨label, behind, closed, rfl⟩
  · exact iff_of_true (markPattern_eq_zero (mt bracket_prefix_of_shownRun other))
      (markPattern_eq_zero other)
  -- The bracket may start the run or not, but nothing closes it.
  · refine iff_of_true ?_ (markPattern_eq_zero_of_not_mem unclosed)
    have unclosed' : ']' ∉ shownRun (bracket ++ rest) := by
      rw [mem_shownRun_iff (by decide) (by decide) (by decide)]
      exact List.not_mem_append (by decide) unclosed
    by_cases starts : bracket <+: shownRun (bracket ++ rest)
    · obtain ⟨shown, equal⟩ := starts
      rw [← equal] at unclosed' ⊢
      exact markPattern_eq_zero_of_not_mem fun member =>
        unclosed' (List.mem_append_right _ member)
    · exact markPattern_eq_zero starts
  · obtain ⟨behind', shown, goesOn⟩ := shownRun_label label behind
    have closed' : ']' ∉ shownLabel label behind := by
      by_cases nonempty : label = []
      · rw [(shownLabel_eq_nil_iff label behind).mpr nonempty]
        exact List.not_mem_nil
      · exact (shownLabel_isLabel nonempty closed behind).2
    rw [shown, markPattern_label closed', markPattern_label closed, shownLabel_eq_nil_iff,
      goesOn '(' (by decide) (by decide), goesOn ':' (by decide) (by decide)]

/-! ### Rendered runs -/

variable {source : Text}

/-- A run that starts with a mark starts with its superscript. -/
theorem textMarkup_of_mark (mark : markPattern source ≠ 0) :
    ∃ label after, Hook.textMarkup source = renderMark label ++ after := by
  rcases bracket_cases source with other | ⟨rest, rfl, unclosed⟩ | ⟨label, behind, closed, rfl⟩
  · exact absurd (markPattern_eq_zero other) mark
  · exact absurd (markPattern_eq_zero_of_not_mem unclosed) mark
  · simp only [Ne, markPattern_label closed, not_or] at mark
    obtain ⟨nonempty, noLink, noNote⟩ := mark
    obtain ⟨behind', shown, goesOn⟩ := shownRun_label label behind
    obtain ⟨some', closed'⟩ := shownLabel_isLabel nonempty closed behind
    have noBracket : ¬ bracket <:+: [] := by decide
    have marked := interpolateMarks_mark noBracket some' closed'
      (mt (goesOn '(' (by decide) (by decide)).mp noLink)
      (mt (goesOn ':' (by decide) (by decide)).mp noNote)
    exact ⟨_, _, (congrArg interpolateMarks shown).trans marked⟩

/-- A run that starts with a visible character and no mark starts with a visible character that
opens no tag. -/
theorem textMarkup_of_not_mark {head : Char} {rest : Text}
    (noMark : markPattern (head :: rest) = 0) (visible : isBlank head = false) :
    ∃ first after, Hook.textMarkup (head :: rest) = first :: after ∧ isBlank first = false ∧
      first ≠ '<' := by
  obtain ⟨first, others, shown, shows, other⟩ := shownRun_cons rest visible
  rw [← markPattern_shownRun, shown] at noMark
  refine ⟨first, interpolateMarks others, ?_, shows, other⟩
  show interpolateMarks (shownRun (head :: rest)) = _
  rw [shown]
  exact Text.substitute_cons_of_zero noMark

/-! ### Blanks in front -/

/-- Whether a run of text starts with a mark behind blanks. The last space of a run whose only
spaces are among these blanks is joined to the mark, unless it is the first character. -/
def startsWithMark (source : Text) : Bool :=
  let run := Text.trimStart source
  markPattern run != 0 && (run.contains ' ' || !(source.takeWhile isBlank).tail.contains ' ')

theorem interpolateMarks_append {front : Text} (noBracket : '[' ∉ front) (rest : Text) :
    interpolateMarks (front ++ rest) = front ++ interpolateMarks rest := by
  have quiet (head : Char) (rest : Text) (other : head ≠ '[') : markPattern (head :: rest) = 0 :=
    markPattern_eq_zero fun starts => other (List.cons_prefix_cons.mp starts).1.symm
  exact Text.substitute_append_of_quiet quiet
    (fun c member equal => noBracket (equal ▸ member)) rest

section

variable {blanks : Text} (blank : ∀ c ∈ blanks, isBlank c = true) {head : Char} {rest : Text}
  (visible : isBlank head = false)

include blank in
theorem bracket_not_mem_blanks : '[' ∉ blanks := fun member =>
  Text.ne_of_isBlank (blank '[' member) (by decide) rfl

include visible in
theorem head?_escapeContent_ne : (Html.escapeContent (head :: rest)).head? ≠ some ' ' := by
  rw [Ne, Html.head?_escapeContent (by decide), List.head?_cons, Option.some.injEq]
  rintro rfl
  cases visible

include blank in
/-- Without a space in a run, joining words changes only the blanks in front of it. -/
theorem shownRun_append_of_no_space (noSpace : ' ' ∉ head :: rest) :
    shownRun (blanks ++ head :: rest) =
      blanks.take 1 ++ (Text.joinLastSpace blanks.tail ++ shownRun (head :: rest)) := by
  have absent : ' ' ∉ Html.escapeContent (head :: rest) := by
    rwa [Html.mem_escapeContent (by decide)]
  have alone : shownRun (head :: rest) = Html.escapeContent (head :: rest) :=
    Text.joinLastWords_of_not_mem absent
  rw [alone, shownRun, Html.escapeContent_append_of_blanks blank]
  cases blanks with
  | nil => exact Text.joinLastWords_of_not_mem absent
  | cons first blanks =>
    exact Text.joinLastWords_cons_append_of_not_mem first blanks
      (escapeContent_ne_nil (List.cons_ne_nil head rest)) absent

include blank visible in
/-- Blanks in front of a run stay, unless they hold its last space behind their first character. -/
theorem textMarkup_append_of_blanks (kept : ' ' ∈ head :: rest ∨ ' ' ∉ blanks.tail) :
    Hook.textMarkup (blanks ++ head :: rest) = blanks ++ Hook.textMarkup (head :: rest) := by
  have joined : shownRun (blanks ++ head :: rest) = blanks ++ shownRun (head :: rest) := by
    by_cases space : ' ' ∈ head :: rest
    · rw [shownRun, Html.escapeContent_append_of_blanks blank]
      exact Text.joinLastWords_append_of_mem blanks (head?_escapeContent_ne visible)
        ((Html.mem_escapeContent (by decide)).mpr space)
    · rw [shownRun_append_of_no_space blank space,
        Text.joinLastSpace_of_not_mem (kept.resolve_left space), ← List.append_assoc]
      congr 1
      cases blanks <;> rfl
  show interpolateMarks (shownRun (blanks ++ head :: rest)) = _
  rw [joined, interpolateMarks_append (bracket_not_mem_blanks blank)]
  rfl

include blank in
/-- If they do, a no-break space takes the place of the space. -/
theorem textMarkup_append_of_joined_blanks (noSpace : ' ' ∉ head :: rest)
    (space : ' ' ∈ blanks.tail) :
    ∃ before after, (∀ c ∈ before, isBlank c = true) ∧
      Hook.textMarkup (blanks ++ head :: rest) = before ++ '&' :: after := by
  obtain ⟨before, behind, spelled, joined⟩ := Text.joinLastSpace_spells space
  have blankBefore : ∀ c ∈ blanks.take 1 ++ before, isBlank c = true := by
    intro c member
    refine blank c ?_
    rcases List.mem_append.mp member with first | later
    · exact List.mem_of_mem_take first
    · exact List.mem_of_mem_tail (spelled ▸ List.mem_append_left _ later)
  have noBracket : '[' ∉ blanks.take 1 ++ before ++ ['&'] :=
    List.not_mem_append (bracket_not_mem_blanks blankBefore) (by decide)
  have shown : shownRun (blanks ++ head :: rest) = blanks.take 1 ++ before ++ ['&'] ++
      ("nbsp;".toList ++ (behind ++ shownRun (head :: rest))) := by
    have reference : noBreakSpace = ['&'] ++ "nbsp;".toList := by decide
    rw [shownRun_append_of_no_space blank noSpace, joined, reference]
    simp only [List.append_assoc]
  refine ⟨blanks.take 1 ++ before,
    interpolateMarks ("nbsp;".toList ++ (behind ++ shownRun (head :: rest))), blankBefore, ?_⟩
  show interpolateMarks (shownRun (blanks ++ head :: rest)) = _
  rw [shown, interpolateMarks_append noBracket, List.append_assoc]
  rfl

end

/-- A text that shows something goes on behind the blanks in front with a visible character. -/
theorem exists_trimStart_cons (visible : source.all isBlank = false) :
    ∃ head rest, Text.trimStart source = head :: rest ∧ isBlank head = false := by
  cases starts : Text.trimStart source with
  | nil =>
    rw [List.all_eq_true.mpr (List.dropWhile_eq_nil_iff.mp starts)] at visible
    cases visible
  | cons head rest => exact ⟨head, rest, rfl, Text.eq_false_of_dropWhile_eq_cons starts⟩

theorem startsWithMark_iff : startsWithMark source = true ↔
    markPattern (Text.trimStart source) ≠ 0 ∧
      (' ' ∈ Text.trimStart source ∨ ' ' ∉ (source.takeWhile isBlank).tail) := by
  simp [startsWithMark]

/-- A run that starts with a mark behind blanks starts with a superscript behind blanks. The first
visible character of any other run opens no tag. -/
theorem textMarkup_starts (visible : source.all isBlank = false) :
    ∃ blanks after, (∀ c ∈ blanks, isBlank c = true) ∧ Hook.textMarkup source = blanks ++ after ∧
      (startsWithMark source = true → "<sup".toList <+: after) ∧
      (startsWithMark source = false → ∃ first others, after = first :: others ∧
        isBlank first = false ∧ first ≠ '<') := by
  obtain ⟨head, rest, run, shows⟩ := exists_trimStart_cons visible
  have blank : ∀ c ∈ source.takeWhile isBlank, isBlank c = true :=
    List.all_eq_true.mp List.all_takeWhile
  have whole : source.takeWhile isBlank ++ head :: rest = source := by
    rw [← run]
    exact List.takeWhile_append_dropWhile
  have starts : startsWithMark source = true ↔ _ := startsWithMark_iff
  rw [run] at starts
  by_cases kept : ' ' ∈ head :: rest ∨ ' ' ∉ (source.takeWhile isBlank).tail
  · have written := textMarkup_append_of_blanks blank shows kept
    rw [whole] at written
    by_cases mark : markPattern (head :: rest) = 0
    · obtain ⟨first, after, front, plain⟩ := textMarkup_of_not_mark mark shows
      refine ⟨_, _, blank, written, fun marked => ?_, fun _ => ⟨first, after, front, plain⟩⟩
      exact absurd mark (starts.mp marked).1
    · obtain ⟨label, after, front⟩ := textMarkup_of_mark mark
      refine ⟨_, _, blank, written, fun _ => ⟨_, front.symm⟩, fun unmarked => ?_⟩
      rw [starts.mpr ⟨mark, kept⟩] at unmarked
      cases unmarked
  · rw [not_or, not_not] at kept
    obtain ⟨before, after, blankBefore, written⟩ :=
      textMarkup_append_of_joined_blanks blank kept.1 kept.2
    rw [whole] at written
    refine ⟨before, _, blankBefore, written, fun marked => ?_,
      fun _ => ⟨'&', after, rfl, by decide, by decide⟩⟩
    exact absurd (starts.mp marked).2 (not_or.mpr ⟨kept.1, not_not.mpr kept.2⟩)

end Footnote

end BookMarkup
