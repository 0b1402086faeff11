/-
This file proves what is trimmed off a bare URL. It is cut in front of the first no-break
space reference; from what is left only punctuation and closing parentheses go, and only
from the end. Taking off unbalanced parentheses stops at the first character in front of
them: what it leaves is balanced, or all parentheses of the run at the end are gone.
-/

import BookMarkup.Html.Autolink
import BookMarkup.Proofs.Text.Occurrence
import BookMarkup.Proofs.Text.Trim

namespace BookMarkup

namespace Html

/-! ### Closing parentheses -/

/-- How many closing parentheses of a URL have no opening one in it. -/
def excess (url : Text) : Nat :=
  url.count ')' - url.count '('

/-- Every text ends in some number of closing parentheses. -/
theorem exists_closing (text : Text) :
    ∃ front count, text = front ++ List.replicate count ')' ∧ front.getLast? ≠ some ')' := by
  obtain ⟨tail, all, whole⟩ := Text.exists_dropEndWhile_append (· == ')') text
  have same : tail = List.replicate tail.length ')' :=
    List.eq_replicate_of_mem fun c member => by simpa using all c member
  refine ⟨Text.dropEndWhile (· == ')') text, tail.length, by rw [← same, ← whole], fun ends => ?_⟩
  exact absurd (Text.last_of_dropEndWhile (· == ')') text ')' ends) (by decide)

theorem length_closing {front : Text} (stops : front.getLast? ≠ some ')') (count : Nat) :
    ((front ++ List.replicate count ')').reverse.takeWhile (· == ')')).length = count := by
  have all : ∀ c ∈ List.replicate count ')', (c == ')') = true := fun c member =>
    beq_iff_eq.mpr (List.eq_of_mem_replicate member)
  rw [List.reverse_append, List.reverse_replicate, List.takeWhile_append_of_pos all,
    List.length_append, List.length_replicate]
  have none : front.reverse.takeWhile (· == ')') = [] := by
    cases front using List.reverseRecOn with
    | nil => rfl
    | append_singleton front last =>
      have other : last ≠ ')' := by
        rintro rfl
        exact stops List.getLast?_concat
      rw [List.reverse_concat, List.takeWhile_cons_of_neg (by simpa using other)]
  rw [none, List.length_nil, Nat.add_zero]

/-- Of the closing parentheses at the end of a URL as many go as have no partner. -/
theorem dropUnbalanced_append {front : Text} (stops : front.getLast? ≠ some ')') (count : Nat) :
    dropUnbalanced (front ++ List.replicate count ')') = front ++
      List.replicate (count - excess (front ++ List.replicate count ')')) ')' := by
  unfold dropUnbalanced
  rw [length_closing stops]
  unfold excess
  generalize List.count ')' _ - List.count '(' _ = lone
  dsimp only
  have size : (front ++ List.replicate count ')').length - min lone count =
      front.length + (count - lone) := by
    rw [List.length_append, List.length_replicate]
    omega
  rw [size, List.take_length_add_append, List.take_replicate, min_eq_left (Nat.sub_le _ _)]

theorem dropUnbalanced_spells (url : Text) :
    ∃ tail, url = dropUnbalanced url ++ tail ∧ ∀ c ∈ tail, c = ')' := by
  obtain ⟨front, count, equal, stops⟩ := exists_closing url
  refine ⟨List.replicate (min count (excess url)) ')', ?_, fun c => List.eq_of_mem_replicate⟩
  have all : count - excess url + min count (excess url) = count := by omega
  conv_rhs => rw [equal, dropUnbalanced_append stops, ← equal, List.append_assoc,
    List.replicate_append_replicate, all]
  exact equal

/-! ### Trimming -/

/-- The part of a URL in front of a no-break space reference. -/
def beforeJoin (url : Text) : Text :=
  match Text.breakOn noBreakSpace url with
  | some (before, _) => before
  | none => url

theorem beforeJoin_of_none {url : Text} (absent : Text.breakOn noBreakSpace url = none) :
    beforeJoin url = url := by
  rw [beforeJoin, absent]

theorem beforeJoin_of_some {url before behind : Text}
    (found : Text.breakOn noBreakSpace url = some (before, behind)) : beforeJoin url = before := by
  rw [beforeJoin, found]

theorem beforeJoin_starts (url : Text) : beforeJoin url <+: url := by
  unfold beforeJoin
  split
  · next before behind found =>
    exact ⟨noBreakSpace ++ behind, by rw [Text.breakOn_spells found, List.append_assoc]⟩
  · exact List.prefix_refl url

theorem noBreakSpace_ne_nil : noBreakSpace ≠ [] := by decide

theorem not_infix_beforeJoin (url : Text) : ¬ noBreakSpace <:+: beforeJoin url := by
  unfold beforeJoin
  split
  · next before behind found => exact Text.not_infix_before_of_breakOn noBreakSpace_ne_nil found
  · next absent => exact (Text.breakOn_eq_none_iff noBreakSpace_ne_nil).mp absent

/-- A front that ends in a slash cannot take part in a reference. -/
theorem beforeJoin_append {front : Text} (ends : front.getLast? = some '/')
    (noReference : '&' ∉ front) (body : Text) :
    beforeJoin (front ++ body) = front ++ beforeJoin body := by
  have apart : Text.Apart noBreakSpace front body := Or.inl fun last inLast => by
    rw [ends] at inLast
    cases inLast
    decide
  have absent : Text.breakOn noBreakSpace front = none := by
    rw [Text.breakOn_eq_none_iff noBreakSpace_ne_nil]
    exact fun inside => noReference (inside.subset List.mem_cons_self)
  unfold beforeJoin
  rw [Text.breakOn_append_of_none apart absent]
  cases Text.breakOn noBreakSpace body <;> rfl

/-- The punctuation that goes from the end of a URL, which is less if the URL has a query. -/
def isTrimmedMark (isQuery : Bool) : Char → Bool :=
  if isQuery then fun c => c == ',' || c == ';' else isSentencePunctuation

theorem trimUrl_eq (url : Text) :
    trimUrl url =
      let isQuery := (beforeJoin url).contains '?'
      let trimmed := Text.dropEndWhile (isTrimmedMark isQuery) (beforeJoin url)
      if trimmed.getLast? = some ')' then
        if isQuery then dropUnbalanced trimmed
        else Text.dropEndWhile isSentencePunctuation (dropUnbalanced trimmed)
      else trimmed := rfl

/-- Only punctuation and closing parentheses are trimmed off the end of a URL. -/
theorem trimUrl_spells (url : Text) :
    ∃ tail, beforeJoin url = trimUrl url ++ tail ∧
      ∀ c ∈ tail, c = ')' ∨ isTrimmedMark ((beforeJoin url).contains '?') c = true := by
  rw [trimUrl_eq]
  generalize beforeJoin url = kept
  extract_lets isQuery trimmed
  obtain ⟨marks, allMarks, whole⟩ := Text.exists_dropEndWhile_append (isTrimmedMark isQuery) kept
  obtain ⟨closing, inner, allClosing⟩ := dropUnbalanced_spells trimmed
  have mark : ∀ c ∈ marks, c = ')' ∨ isTrimmedMark isQuery c = true :=
    fun c member => Or.inr (allMarks c member)
  have both : ∀ c ∈ closing ++ marks, c = ')' ∨ isTrimmedMark isQuery c = true :=
    List.forall_mem_append.mpr ⟨fun c member => Or.inl (allClosing c member), mark⟩
  split_ifs with ends query
  · exact ⟨closing ++ marks, by rw [← List.append_assoc, ← inner]; exact whole, both⟩
  · obtain ⟨more, allMore, rest⟩ :=
      Text.exists_dropEndWhile_append isSentencePunctuation (dropUnbalanced trimmed)
    have noQuery : isTrimmedMark isQuery = isSentencePunctuation := if_neg query
    refine ⟨more ++ (closing ++ marks), ?_, List.forall_mem_append.mpr ⟨?_, both⟩⟩
    · rw [← List.append_assoc, ← rest, ← List.append_assoc, ← inner]
      exact whole
    · exact fun c member => Or.inr (by rw [noQuery]; exact allMore c member)
  · exact ⟨marks, whole, mark⟩

theorem mem_of_trimmed {isQuery : Bool} {c : Char}
    (trimmed : c = ')' ∨ isTrimmedMark isQuery c = true) : c ∈ ").,;:!?".toList := by
  rcases trimmed with rfl | isMark
  · decide
  · cases isQuery
    · simp only [isTrimmedMark, isSentencePunctuation, Bool.false_eq_true, if_false,
        Bool.or_eq_true, beq_iff_eq] at isMark
      rcases isMark with ((((rfl | rfl) | rfl) | rfl) | rfl) | rfl <;> decide
    · simp only [isTrimmedMark, if_true, Bool.or_eq_true, beq_iff_eq] at isMark
      rcases isMark with rfl | rfl <;> decide

/-- What is linked of a URL is the start of it. -/
theorem trimUrl_starts (url : Text) : trimUrl url <+: url := by
  obtain ⟨tail, whole, -⟩ := trimUrl_spells url
  exact (whole ▸ List.prefix_append _ _).trans (beforeJoin_starts url)

theorem trimUrl_append_drop (url : Text) :
    trimUrl url ++ url.drop (trimUrl url).length = url :=
  List.prefix_iff_eq_append.mp (trimUrl_starts url)

/-- A front that ends in a slash is not trimmed. -/
theorem prefix_trimUrl {front : Text} (ends : front.getLast? = some '/')
    (noReference : '&' ∉ front) (body : Text) : front <+: trimUrl (front ++ body) := by
  obtain ⟨tail, whole, trimmed⟩ := trimUrl_spells (front ++ body)
  rw [beforeJoin_append ends noReference] at whole
  rcases List.append_eq_append_iff.mp whole with ⟨more, equal, -⟩ | ⟨more, equal, inTail⟩
  · exact ⟨more, equal.symm⟩
  · cases more using List.reverseRecOn with
    | nil =>
      rw [List.append_nil] at equal
      exact equal ▸ List.prefix_refl front
    | append_singleton more last =>
      rw [equal, ← List.append_assoc, List.getLast?_concat] at ends
      cases ends
      have slash := trimmed '/' (inTail ▸ List.mem_append_left _ List.mem_concat_self)
      have never : ∀ isQuery, ¬ ('/' = ')' ∨ isTrimmedMark isQuery '/' = true) := by decide
      exact absurd slash (never _)

end Html

end BookMarkup
