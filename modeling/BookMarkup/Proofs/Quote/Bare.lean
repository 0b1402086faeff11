/-
This file says which texts are bare: nothing at their ends is taken off by stripping a
quote, neither blanks nor quote marks nor a paragraph tag. The strips work on one text
after the other, and a mark at one end hides the text behind it from the strips of the
same end. So with or without an opening mark, and with or without a closing one, each
strip takes off its own mark and leaves the bare text alone.
-/

import BookMarkup.Proofs.Group.Strip

namespace BookMarkup

namespace Quote

/-! ### Marks -/

theorem isBlank_eq_false_of_isOpeningMark {c : Char} (opens : isOpeningMark c = true) :
    isBlank c = false := by
  simp only [isOpeningMark, Bool.or_eq_true, beq_iff_eq] at opens
  rcases opens with (rfl | rfl) | rfl <;> decide

theorem of_isClosingMark {c : Char} (closes : isClosingMark c = true) :
    isBlank c = false ∧ c ≠ '>' := by
  simp only [isClosingMark, Bool.or_eq_true, beq_iff_eq] at closes
  rcases closes with (rfl | rfl) | rfl <;> decide

/-- No tag stands at the end of a text that ends otherwise. -/
theorem not_tag_suffix {text tag : Text} {last : Char} (inLast : last ∈ text.getLast?)
    (other : last ≠ '>') (ends : tag.getLast? = some '>') : ¬ tag <:+ text := by
  rintro ⟨before, rfl⟩
  rw [List.getLast?_append, ends] at inLast
  exact other (Option.some.inj inLast).symm

theorem dropEndTag_of_not_suffix {text : Text} (noStartTag : ¬ "<p>".toList <:+ text)
    (noEndTag : ¬ "</p>".toList <:+ text) : dropEndTag text = text := by
  unfold dropEndTag
  rw [if_neg]
  rw [Bool.or_eq_true, List.isSuffixOf_iff_suffix, List.isSuffixOf_iff_suffix]
  exact not_or.mpr ⟨noEndTag, noStartTag⟩

/-! ### Bare texts -/

/-- Whether stripping takes nothing off a text. -/
structure IsBare (text : Text) : Prop where
  starts : ∃ first ∈ text.head?, isBlank first = false ∧ isOpeningMark first = false
  ends : ∃ last ∈ text.getLast?, isBlank last = false ∧ isClosingMark last = false
  noStartTag : ¬ "<p>".toList <:+ text
  noEndTag : ¬ "</p>".toList <:+ text

theorem isBare_iff (text : Text) :
    (text.head?.any (fun first => !isBlank first && !isOpeningMark first) = true ∧
      text.getLast?.any (fun last => !isBlank last && !isClosingMark last) = true) ∧
        ¬ "<p>".toList <:+ text ∧ ¬ "</p>".toList <:+ text ↔ IsBare text := by
  simp only [Option.any_eq_true, Bool.and_eq_true, Bool.not_eq_true']
  exact ⟨fun bare => ⟨bare.1.1, bare.1.2, bare.2.1, bare.2.2⟩,
    fun bare => ⟨⟨bare.starts, bare.ends⟩, bare.noStartTag, bare.noEndTag⟩⟩

instance (text : Text) : Decidable (IsBare text) :=
  decidable_of_iff _ (isBare_iff text)

namespace IsBare

variable {text : Text} (bare : IsBare text)

include bare

theorem ne_nil : text ≠ [] := by
  obtain ⟨first, inHead, -⟩ := bare.starts
  rintro rfl
  cases inHead

theorem visibleStart (rest : Text) : ∃ first ∈ (text ++ rest).head?, isBlank first = false := by
  obtain ⟨first, inHead, visible, -⟩ := bare.starts
  refine ⟨first, ?_, visible⟩
  rw [List.head?_append, Option.mem_def.mp inHead]
  rfl

theorem visibleEnd : ∃ last ∈ text.getLast?, isBlank last = false := by
  obtain ⟨last, inLast, visible, -⟩ := bare.ends
  exact ⟨last, inLast, visible⟩

theorem trim : Text.trim text = text := by
  have start := bare.visibleStart []
  rw [List.append_nil] at start
  exact Text.trim_of_visible start bare.visibleEnd

theorem dropOpeningMark (rest : Text) : Quote.dropOpeningMark (text ++ rest) = text ++ rest := by
  obtain ⟨first, inHead, -, noMark⟩ := bare.starts
  obtain ⟨others, rfl⟩ := List.head?_eq_some_iff.mp (Option.mem_def.mp inHead)
  rw [List.cons_append, Quote.dropOpeningMark, noMark]
  rfl

theorem dropClosingMark : Quote.dropClosingMark text = text := by
  obtain ⟨last, inLast, -, noMark⟩ := bare.ends
  rw [Quote.dropClosingMark, Option.mem_def.mp inLast, Option.any_some, noMark]
  rfl

/-- Of bare text in front of an end tag, only the tag goes. -/
theorem dropEndTag_stop : Quote.dropEndTag (text ++ Group.stop) = text := by
  have ends : "</p>".toList <:+ text ++ Group.stop := List.suffix_append text Group.stop
  unfold Quote.dropEndTag
  rw [if_pos, Group.take_append_stop, bare.trim]
  rw [Bool.or_eq_true, List.isSuffixOf_iff_suffix]
  exact Or.inl ends

/-! ### Bare texts between marks -/

section Marked

variable {closing : Option Char} (closes : ∀ mark ∈ closing, isClosingMark mark = true)

include closes

theorem visibleEnd_closed (front : Text) :
    ∃ last ∈ (front ++ (text ++ closing.toList)).getLast?, isBlank last = false := by
  cases closing with
  | none =>
    obtain ⟨last, inLast, visible⟩ := bare.visibleEnd
    refine ⟨last, ?_, visible⟩
    rw [Option.toList_none, List.append_nil, List.getLast?_append_of_ne_nil front bare.ne_nil]
    exact inLast
  | some mark =>
    refine ⟨mark, ?_, (of_isClosingMark (closes mark rfl)).1⟩
    rw [Option.toList_some, ← List.append_assoc]
    exact List.getLast?_concat

theorem dropClosingMark_closed :
    Quote.dropClosingMark (Quote.dropEndTag (text ++ closing.toList)) = text := by
  cases closing with
  | none =>
    rw [Option.toList_none, List.append_nil,
      dropEndTag_of_not_suffix bare.noStartTag bare.noEndTag, bare.dropClosingMark]
  | some mark =>
    have last : mark ∈ (text ++ [mark]).getLast? := List.getLast?_concat
    have noTag {tag : Text} (ends : tag.getLast? = some '>') : ¬ tag <:+ text ++ [mark] :=
      not_tag_suffix last (of_isClosingMark (closes mark rfl)).2 ends
    rw [Option.toList_some, dropEndTag_of_not_suffix (noTag rfl) (noTag rfl),
      Quote.dropClosingMark, List.getLast?_concat, Option.any_some, if_pos (closes mark rfl),
      List.dropLast_concat, bare.trim]

variable {opening : Option Char} (opens : ∀ mark ∈ opening, isOpeningMark mark = true)

include opens

theorem dropOpeningMark_marked :
    Quote.dropOpeningMark (opening.toList ++ (text ++ closing.toList)) =
      text ++ closing.toList := by
  cases opening with
  | none => exact bare.dropOpeningMark _
  | some mark =>
    rw [Option.toList_some, List.singleton_append, Quote.dropOpeningMark,
      if_pos (opens mark rfl)]
    exact Text.trim_of_visible (bare.visibleStart _) (bare.visibleEnd_closed closes [])

theorem dropStartTag_marked :
    Quote.dropStartTag ("<p>".toList ++ (opening.toList ++ (text ++ closing.toList))) =
      opening.toList ++ (text ++ closing.toList) := by
  rw [dropStartTag, Text.after?_append]
  refine Text.trim_of_visible ?_ (bare.visibleEnd_closed closes _)
  cases opening with
  | none => exact bare.visibleStart _
  | some mark => exact ⟨mark, rfl, isBlank_eq_false_of_isOpeningMark (opens mark rfl)⟩

/-- Of bare text between marks behind a start tag, the tag and the marks are stripped, and nothing
else. -/
theorem stripMarks_marked :
    Quote.stripMarks ("<p>".toList ++ (opening.toList ++ (text ++ closing.toList))) = text := by
  rw [Quote.stripMarks, bare.dropStartTag_marked closes opens,
    bare.dropOpeningMark_marked closes opens, bare.dropClosingMark_closed closes]

end Marked

/-- The start tag in front of bare text is stripped, and nothing else. -/
theorem stripMarks : Quote.stripMarks ("<p>".toList ++ text) = text := by
  have unmarked : ∀ mark ∈ (none : Option Char), isClosingMark mark = true ∧
      isOpeningMark mark = true := fun _ member => by cases member
  have stripped := bare.stripMarks_marked (fun mark member => (unmarked mark member).1)
    fun mark member => (unmarked mark member).2
  rwa [Option.toList_none, List.append_nil, List.nil_append] at stripped

/-- The tags around bare text are stripped, and nothing else. -/
theorem stripMarks_paragraph :
    Quote.stripMarks ("<p>".toList ++ (text ++ (Group.stop ++ ['\n']))) = text := by
  have startTag : dropStartTag ("<p>".toList ++ (text ++ (Group.stop ++ ['\n']))) =
      text ++ Group.stop := by
    have stop : Group.stop = "</p".toList ++ ['>'] := by decide
    rw [dropStartTag, Text.after?_append]
    show Text.trim (text ++ (Group.stop ++ ['\n'])) = text ++ Group.stop
    rw [Text.trim, Text.trimStart_of_visible (bare.visibleStart _), ← List.append_assoc,
      Text.trimEnd_append_blanks _ (by decide), stop, ← List.append_assoc,
      Text.trimEnd_concat (by decide)]
  rw [Quote.stripMarks, startTag, bare.dropOpeningMark, bare.dropEndTag_stop,
    bare.dropClosingMark]

end IsBare

end Quote

end BookMarkup
