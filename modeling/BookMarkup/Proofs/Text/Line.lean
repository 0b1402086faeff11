/-
This file ties the lines of a text to the list operation that splits at elements, and
moves lines through a map: where every line end is written as a line end and nothing else
writes one, writing a whole text and cutting it into lines may change places.
-/

import BookMarkup.Text.Basic

namespace BookMarkup

namespace Text

/-- The parts of a text between separators are those of the list split there. -/
theorem parts_eq_splitOnP (separator : Char) (text : Text) :
    parts separator text = List.splitOnP (· == separator) text := by
  induction text with
  | nil => rfl
  | cons head rest inductionHypothesis =>
    rw [parts, List.splitOnP_cons_eq_if_modifyHead, inductionHypothesis]
    by_cases separates : head = separator
    · simp [separates]
    · obtain ⟨part, others, equal⟩ :=
        List.exists_cons_of_ne_nil (List.splitOnP_ne_nil (· == separator) rest)
      simp [separates, equal]

theorem lines_eq_splitOnP (text : Text) : lines text = List.splitOnP (· == '\n') text :=
  parts_eq_splitOnP '\n' text

/-- The parts in front of a separator are followed by those behind it. -/
theorem parts_append_separator (separator : Char) (front rest : Text) :
    parts separator (front ++ separator :: rest) =
      parts separator front ++ parts separator rest := by
  rw [parts_eq_splitOnP, parts_eq_splitOnP, parts_eq_splitOnP]
  exact List.splitOnP_append_cons front rest (beq_self_eq_true separator)

/-- The lines in front of a line end are followed by those behind it. -/
theorem lines_append_lineEnd (front rest : Text) :
    lines (front ++ '\n' :: rest) = lines front ++ lines rest :=
  parts_append_separator '\n' front rest

/-- A text without line ends is one line. -/
theorem lines_of_oneLine {text : Text} (oneLine : '\n' ∉ text) : lines text = [text] := by
  rw [lines_eq_splitOnP]
  refine List.splitOnP_eq_singleton fun c member => beq_eq_false_iff_ne.mpr ?_
  rintro rfl
  exact oneLine member

/-- A list has one more part than separators. -/
theorem length_splitOnP {Unit : Type} (isEnd : Unit → Bool) (units : List Unit) :
    (units.splitOnP isEnd).length = units.countP isEnd + 1 := by
  induction units with
  | nil => rfl
  | cons head rest inductionHypothesis =>
    rw [List.splitOnP_cons_eq_if_modifyHead, List.countP_cons]
    split <;> simp [inductionHypothesis]

/-- A text has one more line than line ends. -/
theorem length_lines (text : Text) : (lines text).length = text.count '\n' + 1 := by
  rw [lines_eq_splitOnP, length_splitOnP]
  rfl

/-- What stands between separators is the part behind as many others as there are separators in
front of it. -/
theorem getElem?_splitOnP {Unit : Type} {isEnd : Unit → Bool} {before part behind : List Unit}
    (others : ∀ unit ∈ part, isEnd unit = false)
    (opens : ∀ last ∈ before.getLast?, isEnd last = true)
    (closes : ∀ first ∈ behind.head?, isEnd first = true) :
    ((before ++ (part ++ behind)).splitOnP isEnd)[before.countP isEnd]? = some part := by
  have first : (part ++ behind).splitOnP isEnd =
      part :: (((part ++ behind).splitOnP isEnd).drop 1) := by
    cases behind with
    | nil => rw [List.append_nil, List.splitOnP_eq_singleton others, List.drop_one, List.tail_cons]
    | cons stop rest =>
      rw [List.splitOnP_append_cons _ _ (closes stop rfl), List.splitOnP_eq_singleton others]
      rfl
  cases final : before.getLast? with
  | none =>
    rw [List.getLast?_eq_none_iff.mp final, List.nil_append, first]
    rfl
  | some last =>
    have isLast := opens last final
    obtain ⟨front, rfl⟩ := List.getLast?_eq_some_iff.mp final
    have count : (front ++ [last]).countP isEnd = (front.splitOnP isEnd).length := by
      rw [length_splitOnP, List.countP_append, List.countP_singleton, if_pos isLast]
    rw [count, List.append_assoc, List.singleton_append, List.splitOnP_append_cons _ _ isLast,
      List.getElem?_append_right (Nat.le_refl _), Nat.sub_self, first]
    rfl

/-- A part of a list stands between separators, behind as many of them as there are parts in front
of it. -/
theorem exists_of_getElem?_splitOnP {Unit : Type} {isEnd : Unit → Bool} {units part : List Unit}
    {index : Nat} (found : (units.splitOnP isEnd)[index]? = some part) :
    ∃ before behind, units = before ++ (part ++ behind) ∧ before.countP isEnd = index ∧
      (∀ last ∈ before.getLast?, isEnd last = true) ∧
      ∀ first ∈ behind.head?, isEnd first = true := by
  induction units generalizing index part with
  | nil =>
    cases index with
    | zero =>
      cases found
      exact ⟨[], [], rfl, rfl, nofun, nofun⟩
    | succ index => cases found
  | cons head rest inductionHypothesis =>
    rw [List.splitOnP_cons_eq_if_modifyHead] at found
    by_cases isHead : isEnd head = true
    · rw [if_pos isHead] at found
      cases index with
      | zero =>
        cases found
        refine ⟨[], head :: rest, rfl, rfl, nofun, fun first member => ?_⟩
        cases member
        exact isHead
      | succ index =>
        obtain ⟨before, behind, rfl, count, opens, closes⟩ := inductionHypothesis found
        refine ⟨head :: before, behind, rfl, ?_, fun last member => ?_, closes⟩
        · rw [List.countP_cons_of_pos isHead, count]
        · rw [List.getLast?_cons] at member
          cases member
          cases final : before.getLast? with
          | none => exact isHead
          | some stop => exact opens stop final
    · rw [if_neg isHead] at found
      cases index with
      | zero =>
        -- The first part starts with the head, and nothing stands in front of it.
        rw [List.getElem?_modifyHead_zero] at found
        obtain ⟨part, inRest, rfl⟩ := Option.map_eq_some_iff.mp found
        obtain ⟨before, behind, rfl, count, opens, closes⟩ := inductionHypothesis inRest
        have none : before = [] := by
          refine List.getLast?_eq_none_iff.mp (Option.eq_none_iff_forall_not_mem.mpr ?_)
          intro stop final
          exact List.countP_eq_zero.mp count stop (List.mem_of_getLast? final) (opens stop final)
        subst none
        exact ⟨[], behind, rfl, rfl, nofun, closes⟩
      | succ index =>
        rw [List.getElem?_modifyHead_succ] at found
        obtain ⟨before, behind, rfl, count, opens, closes⟩ := inductionHypothesis found
        refine ⟨head :: before, behind, rfl, ?_, fun last member => ?_, closes⟩
        · rw [List.countP_cons_of_neg isHead, count]
        · rw [List.getLast?_cons] at member
          cases member
          cases final : before.getLast? with
          | none =>
            rw [List.getLast?_eq_none_iff.mp final] at count
            cases count
          | some stop => exact opens stop final

/-- What stands in a part of a list belongs to the list and is no separator. -/
theorem mem_of_mem_splitOnP {Unit : Type} {isEnd : Unit → Bool} {units part : List Unit}
    (member : part ∈ units.splitOnP isEnd) :
    ∀ unit ∈ part, unit ∈ units ∧ isEnd unit = false := by
  induction units generalizing part with
  | nil =>
    rw [List.splitOnP_nil, List.mem_singleton] at member
    rw [member]
    intro unit inPart
    cases inPart
  | cons head rest inductionHypothesis =>
    have later {part : List Unit} (inRest : part ∈ rest.splitOnP isEnd) :
        ∀ unit ∈ part, unit ∈ head :: rest ∧ isEnd unit = false := fun unit inPart =>
      (inductionHypothesis inRest unit inPart).imp_left (List.mem_cons_of_mem head)
    rw [List.splitOnP_cons_eq_if_modifyHead] at member
    obtain ⟨first, others, equal⟩ :=
      List.exists_cons_of_ne_nil (List.splitOnP_ne_nil isEnd rest)
    rw [equal] at member later
    split at member
    · rcases List.mem_cons.mp member with rfl | inRest
      · intro unit inPart
        cases inPart
      · exact later inRest
    · next other =>
      rcases List.mem_cons.mp member with rfl | inRest
      · intro unit inPart
        rcases List.mem_cons.mp inPart with rfl | inFirst
        · exact ⟨List.mem_cons_self, by simpa using other⟩
        · exact later List.mem_cons_self unit inFirst
      · exact later (List.mem_cons_of_mem _ inRest)

/-- A line is written with the characters of the text, of which none is a line end. -/
theorem mem_of_mem_lines {text line : Text} (member : line ∈ lines text) :
    ∀ c ∈ line, c ∈ text ∧ c ≠ '\n' := by
  rw [lines_eq_splitOnP] at member
  intro c inLine
  obtain ⟨inText, other⟩ := mem_of_mem_splitOnP member c inLine
  exact ⟨inText, beq_eq_false_iff_ne.mp other⟩

/-! ### Joined parts -/

theorem join_cons (separator first : Text) {others : List Text} (more : others ≠ []) :
    join separator (first :: others) = first ++ (separator ++ join separator others) := by
  obtain ⟨second, others, rfl⟩ := List.exists_cons_of_ne_nil more
  rw [join, List.append_assoc]

/-- Joining parts that are all wrapped is joining them with what stands between two of them, and
wrapping the whole. -/
theorem join_map_wrapped (separator left right : Text) {parts : List Text}
    (nonempty : parts ≠ []) :
    join separator (parts.map fun part => left ++ part ++ right) =
      left ++ (join (right ++ separator ++ left) parts ++ right) := by
  induction parts with
  | nil => exact absurd rfl nonempty
  | cons first others inductionHypothesis =>
    by_cases more : others = []
    · subst more
      exact List.append_assoc left first right
    · have moreWrapped : others.map (fun part => left ++ part ++ right) ≠ [] :=
        mt List.map_eq_nil_iff.mp more
      rw [List.map_cons, join_cons _ _ moreWrapped, join_cons _ _ more, inductionHypothesis more]
      simp only [List.append_assoc]

/-- Each part stands in the joined text. -/
theorem infix_join {separator part : Text} {parts : List Text} (member : part ∈ parts) :
    part <:+: join separator parts := by
  induction parts with
  | nil => cases member
  | cons first others inductionHypothesis =>
    by_cases more : others = []
    · subst more
      rw [List.mem_singleton.mp member]
      exact List.infix_refl first
    · rw [join_cons separator first more]
      rcases List.mem_cons.mp member with rfl | later
      · exact (List.prefix_append _ _).isInfix
      · exact (inductionHypothesis later).trans
          ((List.suffix_append _ _).trans (List.suffix_append _ _)).isInfix

/-- Each line stands in its text. -/
theorem infix_of_mem_lines {text line : Text} (member : line ∈ lines text) : line <:+: text := by
  have inside : line <:+: join ['\n'] (lines text) := infix_join member
  rwa [lines, join_parts] at inside

section Written

variable {Unit : Type} (isEnd : Unit → Bool) (write : Unit → Text)

/-- Text without a line end in front of others only makes the first line longer. -/
theorem splitOnP_append_of_plain {front : Text} (plain : '\n' ∉ front) (rest : Text) :
    List.splitOnP (· == '\n') (front ++ rest) =
      (List.splitOnP (· == '\n') rest).modifyHead (front ++ ·) := by
  induction front with
  | nil =>
    obtain ⟨part, parts, equal⟩ :=
      List.exists_cons_of_ne_nil (List.splitOnP_ne_nil (· == '\n') rest)
    simp [equal]
  | cons head front inductionHypothesis =>
    simp only [List.mem_cons, not_or] at plain
    have other : (head == '\n') = false := beq_eq_false_iff_ne.mpr (Ne.symm plain.1)
    rw [List.cons_append, List.splitOnP_cons_eq_if_modifyHead, other,
      inductionHypothesis plain.2, List.modifyHead_modifyHead]
    rfl

/-- The lines of what units are written as are written by the units between the line ends. -/
theorem lines_flatMap (units : List Unit)
    (ends : ∀ unit ∈ units, isEnd unit = true → write unit = ['\n'])
    (others : ∀ unit ∈ units, isEnd unit = false → '\n' ∉ write unit) :
    lines (units.flatMap write) = (units.splitOnP isEnd).map (·.flatMap write) := by
  rw [lines_eq_splitOnP]
  induction units with
  | nil => rfl
  | cons unit rest inductionHypothesis =>
    have later := inductionHypothesis
      (fun unit member => ends unit (List.mem_cons_of_mem _ member))
      (fun unit member => others unit (List.mem_cons_of_mem _ member))
    rw [List.flatMap_cons, List.splitOnP_cons_eq_if_modifyHead]
    cases isLineEnd : isEnd unit with
    | true =>
      rw [ends unit List.mem_cons_self isLineEnd, List.singleton_append,
        List.splitOnP_cons_eq_if_modifyHead, later]
      rfl
    | false =>
      rw [splitOnP_append_of_plain (others unit List.mem_cons_self isLineEnd), later]
      obtain ⟨part, parts, equal⟩ := List.exists_cons_of_ne_nil (List.splitOnP_ne_nil isEnd rest)
      simp [equal]

end Written

end Text

end BookMarkup
