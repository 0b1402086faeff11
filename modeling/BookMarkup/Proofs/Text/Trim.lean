/-
This file proves what trimming takes off a text: blanks at its ends and nothing else.
-/

import BookMarkup.Text.Blank
import Mathlib.Data.List.DropRight
import Mathlib.Data.List.Infix

namespace BookMarkup

namespace Text

theorem ne_of_isBlank {c other : Char} (blank : isBlank c = true)
    (visible : isBlank other = false) : c ≠ other := by
  rintro rfl
  rw [blank] at visible
  cases visible

theorem dropEndWhile_starts (drop : Char → Bool) (text : Text) :
    dropEndWhile drop text <+: text :=
  List.rdropWhile_prefix drop text

/-- Characters to drop at the end of a text change nothing about what is left of it. -/
theorem dropEndWhile_append_of_all {drop : Char → Bool} (text : Text) {tail : Text}
    (all : ∀ c ∈ tail, drop c = true) :
    dropEndWhile drop (text ++ tail) = dropEndWhile drop text := by
  induction tail using List.reverseRecOn with
  | nil => rw [List.append_nil]
  | append_singleton tail last inductionHypothesis =>
    have dropped : drop last = true := all last (List.mem_append_right _ List.mem_cons_self)
    rw [← List.append_assoc]
    refine (List.rdropWhile_concat_pos drop _ last dropped).trans ?_
    exact inductionHypothesis fun c member => all c (List.mem_append_left _ member)

theorem dropEndWhile_concat {drop : Char → Bool} {last : Char} (kept : drop last = false)
    (front : Text) : dropEndWhile drop (front ++ [last]) = front ++ [last] :=
  List.rdropWhile_concat_neg drop front last (by simp [kept])

/-- A text that does not end in a character to drop is kept. -/
theorem dropEndWhile_eq_self {drop : Char → Bool} {text : Text}
    (kept : ∀ last ∈ text.getLast?, drop last = false) : dropEndWhile drop text = text := by
  cases text using List.reverseRecOn with
  | nil => rfl
  | append_singleton front last => exact dropEndWhile_concat (kept last List.getLast?_concat) front

theorem dropEndWhile_of_getLast? {drop : Char → Bool} {text : Text} {last : Char}
    (ends : text.getLast? = some last) (kept : drop last = false) :
    dropEndWhile drop text = text :=
  dropEndWhile_eq_self fun other inLast => by
    rw [ends] at inLast
    cases inLast
    exact kept

/-- What is left ends in a character to keep. -/
theorem last_of_dropEndWhile (drop : Char → Bool) (text : Text) :
    ∀ last ∈ (dropEndWhile drop text).getLast?, drop last = false := by
  intro last inLast
  rw [dropEndWhile, List.getLast?_reverse] at inLast
  obtain ⟨rest, found⟩ := List.head?_eq_some_iff.mp (Option.mem_def.mp inLast)
  have stops := List.head?_dropWhile_not drop text.reverse
  rw [found] at stops
  exact stops

/-- Only characters to drop are taken off the end. -/
theorem exists_dropEndWhile_append (drop : Char → Bool) (text : Text) :
    ∃ tail, (∀ c ∈ tail, drop c = true) ∧ text = dropEndWhile drop text ++ tail := by
  refine ⟨(text.reverse.takeWhile drop).reverse, ?_, ?_⟩
  · intro c member
    exact List.all_eq_true.mp List.all_takeWhile c (List.mem_reverse.mp member)
  · show text = (text.reverse.dropWhile drop).reverse ++ _
    rw [← List.reverse_append, List.takeWhile_append_dropWhile, List.reverse_reverse]

theorem trimEnd_append_blanks (text : Text) {blanks : Text}
    (blank : ∀ c ∈ blanks, isBlank c = true) :
    trimEnd (text ++ blanks) = trimEnd text :=
  dropEndWhile_append_of_all text blank

theorem trimEnd_concat {last : Char} (visible : isBlank last = false) (front : Text) :
    trimEnd (front ++ [last]) = front ++ [last] :=
  dropEndWhile_concat visible front

/-- Trimming takes blanks off the end. -/
theorem exists_trimEnd_append (text : Text) :
    ∃ blanks, (∀ c ∈ blanks, isBlank c = true) ∧ text = trimEnd text ++ blanks :=
  exists_dropEndWhile_append isBlank text

/-- A text that is not all blank shields what is in front of it from trimming. -/
theorem trimEnd_append {text : Text} (visible : text.all isBlank = false) (front : Text) :
    trimEnd (front ++ text) = front ++ trimEnd text ∧ trimEnd text ≠ [] := by
  induction text using List.reverseRecOn with
  | nil => cases visible
  | append_singleton text last inductionHypothesis =>
    rw [← List.append_assoc]
    cases blank : isBlank last with
    | true =>
      have earlier : text.all isBlank = false := by
        rw [List.all_append, List.all_cons, blank, List.all_nil] at visible
        simpa using visible
      have ends (inner : Text) : trimEnd (inner ++ [last]) = trimEnd inner :=
        List.rdropWhile_concat_pos isBlank inner last blank
      rw [ends, ends]
      exact inductionHypothesis earlier
    | false =>
      rw [trimEnd_concat blank, trimEnd_concat blank, List.append_assoc]
      exact ⟨rfl, List.concat_ne_nil last text⟩

/-- A visible character shields what is in front of it from trimming. -/
theorem trimEnd_append_of_visible {front : Text}
    (ends : ∃ last ∈ front.getLast?, isBlank last = false) (text : Text) :
    trimEnd (front ++ text) = front ++ trimEnd text := by
  cases visible : text.all isBlank with
  | false => exact (trimEnd_append visible front).1
  | true =>
    have blank := List.all_eq_true.mp visible
    obtain ⟨last, inLast, kept⟩ := ends
    have none : trimEnd text = [] := trimEnd_append_blanks [] blank
    rw [trimEnd_append_blanks front blank, none, List.append_nil]
    exact dropEndWhile_of_getLast? inLast kept

theorem trimEnd_trimEnd (text : Text) : trimEnd (trimEnd text) = trimEnd text :=
  List.rdropWhile_idempotent isBlank text

theorem trimEnd_trim (text : Text) : trimEnd (trim text) = trim text :=
  trimEnd_trimEnd _

theorem trimStart_of_visible {text : Text} (starts : ∃ first ∈ text.head?, isBlank first = false) :
    trimStart text = text := by
  obtain ⟨first, inHead, visible⟩ := starts
  obtain ⟨rest, rfl⟩ := List.head?_eq_some_iff.mp (Option.mem_def.mp inHead)
  exact List.dropWhile_cons_of_neg (by simp [visible])

/-- A visible character shields what is behind it from trimming. -/
theorem trimStart_append_of_visible {rest : Text}
    (starts : ∃ first ∈ rest.head?, isBlank first = false) (front : Text) :
    trimStart (front ++ rest) = trimStart front ++ rest := by
  induction front with
  | nil => exact trimStart_of_visible starts
  | cons head front inductionHypothesis =>
    cases blank : isBlank head with
    | true =>
      have drops (others : Text) : trimStart (head :: others) = trimStart others :=
        List.dropWhile_cons_of_pos blank
      rw [List.cons_append, drops, drops, inductionHypothesis]
    | false =>
      have keeps (others : Text) : trimStart (head :: others) = head :: others :=
        List.dropWhile_cons_of_neg (by simp [blank])
      rw [List.cons_append, keeps, keeps, List.cons_append]

/-- A text that starts and ends with a visible character is trimmed already. -/
theorem trim_of_visible {text : Text} (starts : ∃ first ∈ text.head?, isBlank first = false)
    (ends : ∃ last ∈ text.getLast?, isBlank last = false) : trim text = text := by
  obtain ⟨last, inLast, visible⟩ := ends
  rw [trim, trimStart_of_visible starts]
  obtain ⟨inner, rfl⟩ := List.getLast?_eq_some_iff.mp (Option.mem_def.mp inLast)
  exact trimEnd_concat visible inner

/-- A front that starts and ends with a visible character keeps it that way. -/
theorem trim_append_of_visible {front : Text}
    (starts : ∃ first ∈ front.head?, isBlank first = false)
    (ends : ∃ last ∈ front.getLast?, isBlank last = false) (rest : Text) :
    trim (front ++ rest) = front ++ trimEnd rest := by
  obtain ⟨first, inHead, visible⟩ := starts
  have starts' : ∃ first ∈ (front ++ rest).head?, isBlank first = false :=
    ⟨first, List.mem_head?_append_of_mem_head? inHead, visible⟩
  rw [trim, trimStart_of_visible starts', trimEnd_append_of_visible ends]

theorem trim_append_of_blanks {blanks : Text} (blank : ∀ c ∈ blanks, isBlank c = true)
    (rest : Text) : trim (blanks ++ rest) = trim rest := by
  rw [trim, trimStart, List.dropWhile_append_of_pos blank]
  rfl

theorem trim_spells (text : Text) : ∃ front blanks, (∀ c ∈ blanks, isBlank c = true) ∧
    text = front ++ trim text ++ blanks := by
  obtain ⟨blanks, blank, whole⟩ := exists_trimEnd_append (trimStart text)
  refine ⟨text.takeWhile isBlank, blanks, blank, ?_⟩
  rw [List.append_assoc]
  exact (List.takeWhile_append_dropWhile).symm.trans (congrArg (text.takeWhile isBlank ++ ·) whole)

/-- Trimming leaves nothing of blanks only. -/
theorem trim_eq_nil_iff {text : Text} : trim text = [] ↔ ∀ c ∈ text, isBlank c = true := by
  constructor
  · intro nothing
    have blankStart : ∀ c ∈ trimStart text, isBlank c = true := by
      obtain ⟨blanks, blank, whole⟩ := exists_trimEnd_append (trimStart text)
      rw [← trim, nothing, List.nil_append] at whole
      rwa [whole]
    cases starts : trimStart text with
    | nil => exact List.dropWhile_eq_nil_iff.mp starts
    | cons first rest =>
      have visible := List.head?_dropWhile_not isBlank text
      rw [← trimStart, starts] at visible
      rw [starts] at blankStart
      exact absurd (blankStart first List.mem_cons_self) (Bool.eq_false_iff.mp visible)
  · intro blank
    rw [trim, trimStart, List.dropWhile_eq_nil_iff.mpr blank]
    rfl

theorem trim_inside (text : Text) : trim text <:+: text := by
  obtain ⟨front, blanks, -, whole⟩ := trim_spells text
  exact ⟨front, blanks, whole.symm⟩

end Text

end BookMarkup
