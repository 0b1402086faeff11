/-
This file proves how a linked URL ends. Trimming drops punctuation, then the closing
parentheses that have no partner, then punctuation once more, and there it stops. So a
linked URL never ends in punctuation, but a parenthesis that comes to light at the end in
the last step stays, whether it has a partner or not.
-/

import BookMarkup.Proofs.Html.Segment

namespace BookMarkup

namespace Html

/-! ### Trimming a URL without a query -/

/-- A query is never trimmed off. -/
theorem no_query_of_trimUrl {url : Text} (noQuery : '?' ∉ trimUrl url) : '?' ∉ beforeJoin url := by
  intro query
  obtain ⟨tail, whole, trimmed⟩ := trimUrl_spells url
  rw [List.contains_iff_mem.mpr query] at trimmed
  rw [whole] at query
  rcases List.mem_append.mp query with inUrl | inTail
  · exact noQuery inUrl
  · exact absurd (trimmed '?' inTail) (by decide)

theorem dropUnbalanced_of_stops {url : Text} (stops : url.getLast? ≠ some ')') :
    dropUnbalanced url = url := by
  have none := dropUnbalanced_append stops 0
  rwa [Nat.zero_sub, List.replicate_zero, List.append_nil] at none

/-- What is trimmed off a URL without a query: punctuation, then parentheses, then punctuation. -/
def trimPlain (url : Text) : Text :=
  Text.dropEndWhile isSentencePunctuation
    (dropUnbalanced (Text.dropEndWhile isSentencePunctuation url))

theorem trimUrl_of_no_query {url : Text} (noQuery : '?' ∉ beforeJoin url) :
    trimUrl url = trimPlain (beforeJoin url) := by
  have plain : (beforeJoin url).contains '?' = false := by
    rw [← Bool.not_eq_true, List.contains_iff_mem]
    exact noQuery
  have marks : isTrimmedMark false = isSentencePunctuation := rfl
  rw [trimUrl_eq, plain, trimPlain]
  dsimp only
  rw [marks, if_neg Bool.false_ne_true]
  split_ifs with ends
  · rfl
  · rw [dropUnbalanced_of_stops ends]
    exact (List.rdropWhile_idempotent isSentencePunctuation _).symm

theorem trimPlain_append_of_marks (url : Text) {stops : Text}
    (areStops : ∀ c ∈ stops, isSentencePunctuation c = true) :
    trimPlain (url ++ stops) = trimPlain url := by
  rw [trimPlain, Text.dropEndWhile_append_of_all url areStops]
  rfl

section Closing

variable {front : Text} {count : Nat}

theorem getLast?_closing : (front ++ List.replicate (count + 1) ')').getLast? = some ')' := by
  rw [List.replicate_succ', ← List.append_assoc, List.getLast?_concat]

/-- Parentheses at the end go as far as they have no partners, and what comes to light behind the
last one that goes is trimmed again. -/
theorem trimPlain_closing (stops : front.getLast? ≠ some ')') :
    trimPlain (front ++ List.replicate (count + 1) ')') =
      if count + 1 ≤ excess (front ++ List.replicate (count + 1) ')')
      then Text.dropEndWhile isSentencePunctuation front
      else front ++
        List.replicate (count + 1 - excess (front ++ List.replicate (count + 1) ')')) ')' := by
  rw [trimPlain, Text.dropEndWhile_of_getLast? getLast?_closing (by decide),
    dropUnbalanced_append stops]
  split_ifs with lone
  · rw [Nat.sub_eq_zero_of_le lone, List.replicate_zero, List.append_nil]
  · obtain ⟨kept, positive⟩ :=
      Nat.exists_eq_succ_of_ne_zero (Nat.sub_ne_zero_of_lt (not_le.mp lone))
    rw [positive]
    exact Text.dropEndWhile_of_getLast? getLast?_closing (by decide)

theorem excess_closing (front : Text) (count : Nat) :
    excess (front ++ List.replicate count ')') = front.count ')' + count - front.count '(' := by
  have others : (List.replicate count ')').count '(' = 0 :=
    List.count_eq_zero_of_not_mem fun member => absurd (List.eq_of_mem_replicate member) (by decide)
  rw [excess, List.count_append, List.count_append, List.count_replicate_self, others, Nat.add_zero]

/-- The parentheses that stay at the end have partners. -/
theorem excess_of_kept (kept : ¬ count ≤ excess (front ++ List.replicate count ')')) :
    excess (front ++
      List.replicate (count - excess (front ++ List.replicate count ')')) ')') = 0 := by
  rw [excess_closing] at kept ⊢
  rw [excess_closing]
  omega

end Closing

/-! ### Parentheses behind punctuation -/

/-- Whether parentheses and punctuation alternate at the end of a URL: behind a closing parenthesis
that has no partner come punctuation, closing parentheses again, and perhaps more punctuation. -/
inductive EndsMixed : Text → Prop where
  | intro {front marks stops : Text} {count : Nat} (ends : front.getLast? = some ')')
    (lone : excess front ≠ 0) (marked : marks ≠ [])
    (areMarks : ∀ c ∈ marks, isSentencePunctuation c = true)
    (areStops : ∀ c ∈ stops, isSentencePunctuation c = true) :
    EndsMixed (front ++ marks ++ List.replicate (count + 1) ')' ++ stops)

/-- Of parentheses and punctuation that alternate at the end, only the last ones go. -/
theorem EndsMixed.trimPlain {url : Text} (mixed : EndsMixed url) :
    (trimPlain url).getLast? = some ')' ∧ excess (trimPlain url) ≠ 0 := by
  cases mixed with
  | @intro front marks stops count ends lone marked areMarks areStops =>
    obtain ⟨last, inLast⟩ := Option.ne_none_iff_exists'.mp (mt List.getLast?_eq_none_iff.mp marked)
    have noParenthesis : (front ++ marks).getLast? ≠ some ')' := by
      rw [List.getLast?_append_of_ne_nil front marked, inLast]
      rintro ⟨⟩
      exact absurd (areMarks ')' (List.mem_of_getLast? inLast)) (by decide)
    have unmarked {c : Char} (other : isSentencePunctuation c = false) : marks.count c = 0 :=
      List.count_eq_zero_of_not_mem fun member =>
        absurd (areMarks c member) (Bool.eq_false_iff.mp other)
    have allLone : count + 1 ≤ excess (front ++ marks ++ List.replicate (count + 1) ')') := by
      rw [excess_closing, List.count_append, List.count_append, @unmarked ')' (by decide),
        @unmarked '(' (by decide)]
      unfold excess at lone
      omega
    have kept :
        Html.trimPlain (front ++ marks ++ List.replicate (count + 1) ')' ++ stops) = front := by
      rw [trimPlain_append_of_marks _ areStops, trimPlain_closing noParenthesis, if_pos allLone,
        Text.dropEndWhile_append_of_all front areMarks,
        Text.dropEndWhile_of_getLast? ends (by decide)]
    rw [kept]
    exact ⟨ends, lone⟩

/-- If what is left ends in a parenthesis without a partner, they alternated. -/
theorem endsMixed_of_trimPlain {url : Text} (ends : (trimPlain url).getLast? = some ')')
    (lone : excess (trimPlain url) ≠ 0) : EndsMixed url := by
  obtain ⟨stops, areStops, whole⟩ := Text.exists_dropEndWhile_append isSentencePunctuation url
  have last := Text.last_of_dropEndWhile isSentencePunctuation url
  generalize Text.dropEndWhile isSentencePunctuation url = kept at whole last
  subst whole
  rw [trimPlain_append_of_marks kept areStops] at ends lone
  obtain ⟨inner, count, rfl, noParenthesis⟩ := exists_closing kept
  cases count with
  | zero =>
    rw [List.replicate_zero, List.append_nil] at ends last
    rw [trimPlain, Text.dropEndWhile_eq_self last, dropUnbalanced_of_stops noParenthesis,
      Text.dropEndWhile_eq_self last] at ends
    exact absurd ends noParenthesis
  | succ count =>
    rw [trimPlain_closing noParenthesis] at ends lone
    split_ifs at ends lone with allLone
    · obtain ⟨marks, areMarks, split⟩ := Text.exists_dropEndWhile_append isSentencePunctuation inner
      have marked : marks ≠ [] := by
        rintro rfl
        rw [List.append_nil] at split
        exact noParenthesis (split ▸ ends)
      rw [split]
      exact .intro ends lone marked areMarks areStops
    · exact absurd (excess_of_kept allLone) lone

/-! ### Main theorem -/

/-- A linked URL without a query never ends in punctuation, and it ends in a parenthesis without a
partner exactly if parentheses and punctuation alternate at the end of the URL in the text. -/
theorem linked_url_ends_balanced_iff (text : Text) :
    (∀ url, .address url ∈ segments text ↔ ∃ source ∈ bareUrls text, url = trimUrl source) ∧
      ∀ source ∈ bareUrls text, '?' ∉ trimUrl source →
        (∀ last ∈ (trimUrl source).getLast?, isSentencePunctuation last = false) ∧
        (((trimUrl source).getLast? = some ')' →
            (trimUrl source).count ')' ≤ (trimUrl source).count '(') ↔
          ¬ EndsMixed (beforeJoin source)) := by
  refine ⟨fun url => address_mem_segments_iff, fun source _ noQuery => ?_⟩
  rw [trimUrl_of_no_query (no_query_of_trimUrl noQuery)]
  refine ⟨Text.last_of_dropEndWhile isSentencePunctuation _, ?_⟩
  rw [← Nat.sub_eq_zero_iff_le, ← excess]
  constructor
  · intro balanced mixed
    exact mixed.trimPlain.2 (balanced mixed.trimPlain.1)
  · intro single ends
    by_contra lone
    exact single (endsMixed_of_trimPlain ends lone)

/-- A URL with parentheses of its own is linked up to the last of them. -/
theorem url_with_own_parentheses_ends_balanced :
    "http://x/a_(b).)".toList ∈ bareUrls "(http://x/a_(b).)".toList ∧
      trimUrl "http://x/a_(b).)".toList = "http://x/a_(b)".toList ∧
      '?' ∉ trimUrl "http://x/a_(b).)".toList ∧
      ¬ EndsMixed (beforeJoin "http://x/a_(b).)".toList) :=
  ⟨by decide, by decide, by decide, ((linked_url_ends_balanced_iff "(http://x/a_(b).)".toList).2
    "http://x/a_(b).)".toList (by decide) (by decide)).2.mp fun _ => by decide⟩

/-- A linked URL may end in a parenthesis without a partner. -/
theorem linked_url_may_end_unbalanced :
    ¬ ∀ text url, .address url ∈ segments text → '?' ∉ url →
      (∀ last ∈ url.getLast?, last ∉ ".,;:!".toList) ∧
        (url.getLast? = some ')' → url.count ')' ≤ url.count '(') := by
  intro always
  have linked : .address "http://x)".toList ∈ segments "http://x).)".toList := by decide
  have balanced := (always _ _ linked (by decide)).2 (by decide)
  exact absurd balanced (by decide)

end Html

end BookMarkup
