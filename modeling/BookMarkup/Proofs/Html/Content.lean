/-
This file proves that escaping goes part by part. Whether an ampersand is escaped depends
on the characters behind it, but only up to the first one that a character reference does
not hold; text is therefore escaped on either side of such a character alone. Escaping
element content adds no space and leaves no angle bracket.
-/

import BookMarkup.Proofs.Html.Attribute
import BookMarkup.Proofs.Text.Occurrence
import BookMarkup.Proofs.Text.Trim

namespace BookMarkup

namespace Html

/-! ### Parts -/

/-- Whether a character ends a character reference that is not complete yet. -/
def EndsReference (stop : Char) : Prop :=
  isWord stop = false ∧ stop ≠ ';' ∧ stop ≠ '#'

variable {stop : Char}

/-- A word with a semicolon stands in front of a character that neither of them holds. -/
theorem startsWithTerminatedWord_append (ends : EndsReference stop) (text rest : Text) :
    startsWithTerminatedWord (text ++ stop :: rest) = startsWithTerminatedWord text := by
  obtain ⟨noWord, noSemicolon, -⟩ := ends
  rw [Bool.eq_iff_iff, startsWithTerminatedWord_iff, startsWithTerminatedWord_iff]
  constructor
  · rintro ⟨word, tail, nonempty, words, spelled⟩
    rcases List.append_eq_append_iff.mp spelled with
      ⟨inWord, whole, behind⟩ | ⟨inText, whole, behind⟩
    · cases inWord with
      | nil => exact absurd (List.cons.inj behind).1 noSemicolon
      | cons first others =>
        have member : stop ∈ word := by
          rw [whole, (List.cons.inj behind).1]
          exact List.mem_append_right _ List.mem_cons_self
        rw [words stop member] at noWord
        cases noWord
    · cases inText with
      | nil => exact absurd (List.cons.inj behind).1.symm noSemicolon
      | cons first others =>
        rw [← (List.cons.inj behind).1] at whole
        exact ⟨word, others, nonempty, words, whole⟩
  · rintro ⟨word, tail, nonempty, words, rfl⟩
    exact ⟨word, tail ++ stop :: rest, nonempty, words, List.append_assoc _ _ _⟩

/-- What stands behind a character that no reference holds does not complete one. -/
theorem completesReference_append (ends : EndsReference stop) (text rest : Text) :
    completesReference (text ++ stop :: rest) = completesReference text := by
  have parts := startsWithTerminatedWord_append ends
  cases text with
  | nil =>
    rw [List.nil_append, completesReference_of_ne ends.2.2]
    exact parts [] rest
  | cons head tail =>
    by_cases sign : head = '#'
    · rw [sign, List.cons_append, completesReference_sign, completesReference_sign, parts]
    · rw [List.cons_append, completesReference_of_ne sign, completesReference_of_ne sign,
        ← List.cons_append, parts]

/-- Content is escaped on either side of a character that no reference holds. -/
theorem escapeContent_append (ends : EndsReference stop) (text rest : Text) :
    escapeContent (text ++ stop :: rest) = escapeContent text ++ escapeContent (stop :: rest) := by
  unfold escapeContent
  induction text with
  | nil => rfl
  | cons head text inductionHypothesis =>
    rw [List.cons_append, escapeKeeping, escapeKeeping, completesReference_append ends,
      inductionHypothesis, List.append_assoc]

/-! ### What escaping leaves and adds -/

/-- What escaping element content writes behind the ampersand of a reference. -/
def contentNames : List Text :=
  ["amp;".toList, "lt;".toList, "gt;".toList]

/-- A character is kept, or a reference is written for it. -/
theorem escapeContent_cons (head : Char) (rest : Text) :
    (head ≠ '<' ∧ escapeContent (head :: rest) = head :: escapeContent rest) ∨
      head ∈ ['&', '<', '>'] ∧ ∃ name ∈ contentNames,
        escapeContent (head :: rest) = '&' :: (name ++ escapeContent rest) := by
  unfold escapeContent
  rw [escapeKeeping]
  by_cases ampersand : head = '&'
  · subst ampersand
    cases completesReference rest with
    | true => exact Or.inl ⟨by decide, rfl⟩
    | false => exact Or.inr ⟨by decide, "amp;".toList, by decide, rfl⟩
  by_cases less : head = '<'
  · subst less
    exact Or.inr ⟨by decide, "lt;".toList, by decide, rfl⟩
  by_cases greater : head = '>'
  · subst greater
    exact Or.inr ⟨by decide, "gt;".toList, by decide, rfl⟩
  refine Or.inl ⟨less, ?_⟩
  rw [if_neg ampersand, if_neg (by simp [isReservedInContent, less, greater])]
  rfl

/-- The characters that escaping element content replaces or writes. -/
def isTouched (c : Char) : Bool :=
  "&<>amplgt;".toList.contains c

theorem not_mem_of_not_isTouched {c : Char} (untouched : isTouched c = false) :
    c ∉ ['&', '<', '>'] ∧ ∀ name ∈ contentNames, c ∉ '&' :: name := by
  have among : ∀ name ∈ ['&', '<', '>'] :: contentNames.map ('&' :: ·), ∀ c ∈ name,
      isTouched c = true := by decide
  have other {name : Text} (inside : name ∈ ['&', '<', '>'] :: contentNames.map ('&' :: ·)) :
      c ∉ name := fun member => by
    rw [among name inside c member] at untouched
    cases untouched
  exact ⟨other List.mem_cons_self,
    fun name member => other (List.mem_cons_of_mem _ (List.mem_map_of_mem member))⟩

/-- Characters that escaping has nothing to do with are neither added nor lost. -/
theorem mem_escapeContent {c : Char} (untouched : isTouched c = false) {text : Text} :
    c ∈ escapeContent text ↔ c ∈ text := by
  obtain ⟨notReserved, notWritten⟩ := not_mem_of_not_isTouched untouched
  induction text with
  | nil => exact Iff.rfl
  | cons head rest inductionHypothesis =>
    rcases escapeContent_cons head rest with ⟨-, kept⟩ | ⟨reserved, name, isName, written⟩
    · rw [kept, List.mem_cons, List.mem_cons, inductionHypothesis]
    · have other : c ≠ head := fun equal => notReserved (equal ▸ reserved)
      rw [written, ← List.cons_append, List.mem_append, inductionHypothesis,
        or_iff_right (notWritten name isName)]
      exact (List.mem_cons.trans (or_iff_right other)).symm

/-- Escaped content holds no start of a tag. -/
theorem less_not_mem_escapeContent (text : Text) : '<' ∉ escapeContent text := fun member =>
  absurd (not_reserved_of_mem_escapeContent member) (by decide)

/-- Escaped content starts as the content does, if that start is kept. -/
theorem head?_escapeContent {c : Char} (untouched : isTouched c = false) {text : Text} :
    (escapeContent text).head? = some c ↔ text.head? = some c := by
  obtain ⟨notReserved, notWritten⟩ := not_mem_of_not_isTouched untouched
  cases text with
  | nil => exact Iff.rfl
  | cons head rest =>
    rcases escapeContent_cons head rest with ⟨-, kept⟩ | ⟨reserved, name, isName, written⟩
    · rw [kept, List.head?_cons, List.head?_cons]
    · rw [written, List.head?_cons, List.head?_cons, Option.some.injEq, Option.some.injEq]
      constructor
      · rintro rfl
        exact absurd List.mem_cons_self (notWritten name isName)
      · rintro rfl
        exact absurd reserved notReserved

/-- Escaping brings no two characters together that it has nothing to do with. -/
theorem not_infix_escapeContent {first second : Char} (untouched : isTouched first = false)
    (other : isTouched second = false) {text : Text} (absent : ¬ [first, second] <:+: text) :
    ¬ [first, second] <:+: escapeContent text := by
  obtain ⟨-, notWritten⟩ := not_mem_of_not_isTouched untouched
  induction text with
  | nil => exact absent
  | cons head rest inductionHypothesis =>
    rw [List.infix_cons_iff, not_or] at absent
    obtain ⟨notHere, notLater⟩ := absent
    rcases escapeContent_cons head rest with ⟨-, kept⟩ | ⟨-, name, isName, written⟩
    · rw [kept, List.infix_cons_iff, not_or]
      refine ⟨fun starts => notHere ?_, inductionHypothesis notLater⟩
      rw [List.cons_prefix_cons, List.singleton_prefix_iff_head?_eq_some] at starts ⊢
      exact ⟨starts.1, (head?_escapeContent other).mp starts.2⟩
    · have plain := notWritten name isName
      rw [written, ← List.cons_append]
      refine Text.not_infix_append (List.cons_ne_nil _ _) (Or.inl fun last inLast among => ?_)
        (fun inside => plain (inside.subset List.mem_cons_self)) (inductionHypothesis notLater)
      rw [List.mem_singleton.mp among] at inLast
      exact plain (List.mem_of_getLast? inLast)

/-! ### Blanks -/

theorem escapeChar_of_isBlank {c : Char} (blank : isBlank c = true) : escapeChar c = [c] := by
  have free : isReservedInAttribute c = false := by
    simp only [isReservedInAttribute, Bool.or_eq_false_iff, beq_eq_false_iff_ne]
    exact ⟨⟨⟨Text.ne_of_isBlank blank (by decide), Text.ne_of_isBlank blank (by decide)⟩,
      Text.ne_of_isBlank blank (by decide)⟩, Text.ne_of_isBlank blank (by decide)⟩
  exact escapeChar_of_plain (Text.ne_of_isBlank blank (by decide)) free

theorem escapeContent_append_of_blanks {blanks : Text} (blank : ∀ c ∈ blanks, isBlank c = true)
    (rest : Text) : escapeContent (blanks ++ rest) = blanks ++ escapeContent rest :=
  escapeKeeping_append_of_plain _ (fun c member => escapeChar_of_isBlank (blank c member)) rest

end Html

end BookMarkup
