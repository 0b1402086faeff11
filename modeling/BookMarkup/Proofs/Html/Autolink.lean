/-
This file proves what autolinking finds in a text. What is passed over starts with a `<`
and ends with a `>`; a bare URL is the scheme and the run of characters behind it, which
holds no tag and no line end. In a text that ends in a tag, every `<` starts something
that is passed over, so the text can be cut into pieces, of which each is written as it
was or as an anchor.
-/

import BookMarkup.Proofs.Html.Attribute
import BookMarkup.Proofs.Html.Trimming
import BookMarkup.Proofs.Text.Letter
import BookMarkup.Proofs.Text.Substitute
import Mathlib.Data.List.Forall2
import Mathlib.Data.List.TakeWhile

namespace BookMarkup

namespace Html

/-! ### Pieces -/

/-- How a piece of a text is written when its URLs become anchors. -/
inductive Linked : Text → Text → Prop where
  /-- A character outside of tags and URLs. -/
  | kept {c : Char} (other : c ≠ '<') : Linked [c] [c]
  /-- A tag, or an anchor element. -/
  | tag {piece : Text} (starts : piece.head? = some '<') (ends : piece.getLast? = some '>') :
    Linked piece piece
  /-- A URL and the punctuation behind it. -/
  | url {shown behind : Text} (plain : ∀ c ∈ shown ++ behind, c ≠ '<' ∧ c ≠ '\n')
    (starts : ∃ first ∈ (shown ++ behind).head?,
      isLetterOf 'h' first = true ∨ isLetterOf 'f' first = true) :
    Linked (shown ++ behind) (anchorTo shown ++ behind)

/-! ### Markup that is passed over -/

/-- A piece of markup that is passed over. -/
inductive IsMarkup : Text → Prop where
  /-- A tag reaches from a `<` to the next `>`. -/
  | tag {inside : Text} (noEnd : '>' ∉ inside) : IsMarkup ('<' :: (inside ++ ['>']))
  /-- An anchor element reaches from the start tag of an anchor to the end tag of one. -/
  | anchor {letter last : Char} {attributes content : Text} (starts : isLetterOf 'a' letter = true)
    (noWord : ∀ first ∈ attributes.head?, isWord first = false) (noEnd : '>' ∉ attributes)
    (ends : isLetterOf 'a' last = true) :
    IsMarkup ('<' :: letter :: (attributes ++ '>' :: (content ++ ['<', '/', last, '>'])))

theorem IsMarkup.head? {element : Text} (isMarkup : IsMarkup element) :
    element.head? = some '<' := by
  cases isMarkup <;> rfl

theorem IsMarkup.getLast? {element : Text} (isMarkup : IsMarkup element) :
    element.getLast? = some '>' := by
  cases isMarkup with
  | @tag inside noEnd =>
    rw [← List.cons_append]
    exact List.getLast?_concat
  | @anchor letter last attributes content starts noWord noEnd ends =>
    have whole : '<' :: letter :: (attributes ++ '>' :: (content ++ ['<', '/', last, '>'])) =
        ('<' :: letter :: (attributes ++ '>' :: (content ++ ['<', '/', last]))) ++ ['>'] := by
      simp only [List.cons_append, List.append_assoc, List.nil_append]
    rw [whole]
    exact List.getLast?_concat

theorem IsMarkup.ne_nil {element : Text} (isMarkup : IsMarkup element) : element ≠ [] := by
  rintro rfl
  cases isMarkup.head?

theorem afterAnchorEnd?_spells {text behind : Text} (found : afterAnchorEnd? text = some behind) :
    ∃ content last, isLetterOf 'a' last = true ∧
      text = content ++ (['<', '/', last, '>'] ++ behind) := by
  fun_induction afterAnchorEnd? text with
  | case1 letter rest isAnchor =>
    cases found
    exact ⟨[], letter, isAnchor, rfl⟩
  | case2 letter rest noAnchor inductionHypothesis =>
    obtain ⟨content, last, ends, equal⟩ := inductionHypothesis found
    exact ⟨'<' :: content, last, ends, by rw [equal]; rfl⟩
  | case3 head rest noEnd inductionHypothesis =>
    obtain ⟨content, last, ends, equal⟩ := inductionHypothesis found
    exact ⟨head :: content, last, ends, by rw [equal]; rfl⟩
  | case4 => cases found

theorem takeWhile_spells {rest behind : Text} {last : Char}
    (found : rest.dropWhile (· != '>') = last :: behind) :
    rest = rest.takeWhile (· != '>') ++ '>' :: behind := by
  have isEnd : last = '>' := by simpa using Text.eq_false_of_dropWhile_eq_cons found
  subst isEnd
  rw [← found, List.takeWhile_append_dropWhile]

theorem end_not_mem_takeWhile (rest : Text) : '>' ∉ rest.takeWhile (· != '>') := fun member =>
  absurd (List.all_eq_true.mp List.all_takeWhile '>' member) (by decide)

theorem head?_takeWhile_subset {keep : Char → Bool} {rest : Text} {first : Char}
    (inHead : first ∈ (rest.takeWhile keep).head?) : first ∈ rest.head? := by
  obtain ⟨others, equal⟩ := List.head?_eq_some_iff.mp (Option.mem_def.mp inHead)
  rw [← List.takeWhile_append_dropWhile (p := keep) (l := rest), equal]
  rfl

theorem anchorPattern_spells (text : Text) :
    anchorPattern text = 0 ∨ ∃ element behind, text = element ++ behind ∧ IsMarkup element ∧
      anchorPattern text = element.length := by
  unfold anchorPattern
  split
  · next letter rest =>
    split
    · next isStart =>
      split
      · next content found =>
        split
        · next behind anchorEnd =>
          rw [Bool.and_eq_true, Bool.not_eq_true', Option.any_eq_false] at isStart
          have spelled := takeWhile_spells found
          obtain ⟨shown, last, ends, rfl⟩ := afterAnchorEnd?_spells anchorEnd
          have noWord : ∀ first ∈ (rest.takeWhile (· != '>')).head?, isWord first = false :=
            fun first inHead => isStart.2 first (head?_takeWhile_subset inHead)
          have size := congrArg List.length spelled
          refine Or.inr ⟨'<' :: letter :: (rest.takeWhile (· != '>') ++
            '>' :: (shown ++ ['<', '/', last, '>'])), behind, ?_,
            .anchor isStart.1 noWord (end_not_mem_takeWhile rest) ends, ?_⟩
          · conv_lhs => rw [spelled]
            simp only [List.cons_append, List.append_assoc, List.nil_append]
          · simp only [List.length_cons, List.length_append, List.length_nil] at size ⊢
            omega
        · exact Or.inl rfl
      · exact Or.inl rfl
    · exact Or.inl rfl
  · exact Or.inl rfl

theorem bracketPattern_spells (text : Text) :
    bracketPattern text = 0 ∨ ∃ element behind, text = element ++ behind ∧ IsMarkup element ∧
      bracketPattern text = element.length := by
  unfold bracketPattern
  split
  · next rest =>
    dsimp only
    split
    · exact Or.inl rfl
    · next more =>
      rw [List.isEmpty_iff, Text.drop_length_takeWhile] at more
      obtain ⟨last, behind, found⟩ := List.exists_cons_of_ne_nil more
      refine Or.inr ⟨_, behind, ?_, .tag (end_not_mem_takeWhile rest), ?_⟩
      · simp only [List.cons_append, List.append_assoc, List.nil_append]
        rw [← takeWhile_spells found]
      · simp only [List.length_cons, List.length_append, List.length_nil]
  · exact Or.inl rfl

/-- Every `<` with a `>` behind it is passed over. -/
theorem bracketPattern_ne_zero {rest : Text} (ends : '>' ∈ rest) :
    bracketPattern ('<' :: rest) ≠ 0 := by
  have more : (rest.drop (rest.takeWhile (· != '>')).length).isEmpty ≠ true := by
    rw [Ne, List.isEmpty_iff, Text.drop_length_takeWhile, List.dropWhile_eq_nil_iff]
    intro none
    exact absurd (none '>' ends) (by decide)
  rw [bracketPattern, if_neg more]
  exact Nat.succ_ne_zero _

/-- The pattern of markup: an anchor element, or else a tag. -/
def markupPattern : Text.Pattern := fun text =>
  match anchorPattern text with
  | 0 => bracketPattern text
  | taken => taken

theorem markupPattern_of_zero {text : Text} (noAnchor : anchorPattern text = 0) :
    markupPattern text = bracketPattern text := by
  simp only [markupPattern, noAnchor]

theorem markupPattern_of_ne_zero {text : Text} (anchor : anchorPattern text ≠ 0) :
    markupPattern text = anchorPattern text := by
  unfold markupPattern
  split
  · contradiction
  · rfl

/-- What is taken as markup is some. -/
theorem markupPattern_spells (text : Text) :
    markupPattern text = 0 ∨ ∃ element behind, text = element ++ behind ∧ IsMarkup element ∧
      markupPattern text = element.length := by
  by_cases noAnchor : anchorPattern text = 0
  · rw [markupPattern_of_zero noAnchor]
    exact bracketPattern_spells text
  · rw [markupPattern_of_ne_zero noAnchor]
    exact anchorPattern_spells text

theorem markupPattern_ne_zero {rest : Text} (ends : '>' ∈ rest) :
    markupPattern ('<' :: rest) ≠ 0 := by
  by_cases noAnchor : anchorPattern ('<' :: rest) = 0
  · rw [markupPattern_of_zero noAnchor]
    exact bracketPattern_ne_zero ends
  · rwa [markupPattern_of_ne_zero noAnchor]

theorem markupPattern_of_ne {head : Char} (other : head ≠ '<') (rest : Text) :
    markupPattern (head :: rest) = 0 := by
  rcases markupPattern_spells (head :: rest) with none | ⟨element, behind, whole, isMarkup, -⟩
  · exact none
  · obtain ⟨inside, rfl⟩ := List.head?_eq_some_iff.mp isMarkup.head?
    exact absurd (List.cons.inj whole).1 other

/-! ### Schemes -/

/-- The schemes of bare URLs. -/
def webSchemes : List Text :=
  ["http".toList, "https".toList, "ftp".toList, "ftps".toList]

/-- Whether a text is some small letters when case does not count. Case is that of Unicode, where
the long `s` is another small form of the capital `S`. -/
def EqualUpToCase (letters text : Text) : Prop :=
  List.Forall₂ (fun letter c => isLetterOf letter c = true) letters text

section Look

variable {look : Char → Bool} (caseless : ∀ code < 0x5B, 0x41 ≤ code →
  look (Char.ofNat code).toLower = look (Char.ofNat code)) (long : look '\u017F' = true)

include caseless long

theorem look_of_isLetterOf {letter c : Char} (small : look letter = true)
    (isLetter : isLetterOf letter c = true) : look c = true := by
  simp only [isLetterOf, Bool.or_eq_true, Bool.and_eq_true, beq_iff_eq] at isLetter
  rcases isLetter with same | ⟨-, rfl⟩
  · rw [← eq_of_toLower caseless c, same, small]
  · exact long

/-- What holds of all letters in small, and of capital letters like of small ones, holds of them in
any case. -/
theorem EqualUpToCase.all {letters text : Text} (same : EqualUpToCase letters text)
    (small : ∀ letter ∈ letters, look letter = true) : ∀ c ∈ text, look c = true := by
  induction same with
  | nil => exact fun c member => nomatch member
  | cons isLetter others inductionHypothesis =>
    obtain ⟨first, later⟩ := List.forall_mem_cons.mp small
    exact List.forall_mem_cons.mpr
      ⟨look_of_isLetterOf caseless long first isLetter, inductionHypothesis later⟩

end Look

theorem afterLetters?_spells {letters text rest : Text}
    (found : afterLetters? letters text = some rest) :
    ∃ front, text = front ++ rest ∧ EqualUpToCase letters front := by
  induction letters generalizing text with
  | nil =>
    cases found
    exact ⟨[], rfl, .nil⟩
  | cons letter letters inductionHypothesis =>
    cases text with
    | nil => cases found
    | cons head tail =>
      rw [afterLetters?] at found
      split at found
      · next isLetter =>
        obtain ⟨front, rfl, same⟩ := inductionHypothesis found
        exact ⟨head :: front, rfl, .cons isLetter same⟩
      · cases found

theorem afterLetters?_append {letters front : Text} (same : EqualUpToCase letters front)
    (rest : Text) : afterLetters? letters (front ++ rest) = some rest := by
  induction same with
  | nil => rfl
  | cons isLetter others inductionHypothesis =>
    rw [List.cons_append, afterLetters?, if_pos isLetter, inductionHypothesis]

theorem afterLetters?_http_of_f {head : Char} (isLetter : isLetterOf 'f' head = true)
    (rest : Text) : afterLetters? "http".toList (head :: rest) = none := by
  have small : head.toLower = 'f' := by simpa [isLetterOf] using isLetter
  have other : isLetterOf 'h' head = false := by simp [isLetterOf, small]
  exact if_neg (Bool.eq_false_iff.mp other)

/-- The name of a scheme comes in two forms, of which the longer one has an `s` more. -/
theorem name_cases {scheme name : Text} (among : scheme ∈ webSchemes)
    (same : EqualUpToCase scheme name) :
    ∃ letters front secure, (letters = "http".toList ∨ letters = "ftp".toList) ∧
      EqualUpToCase letters front ∧ (∀ c ∈ secure, isLetterOf 's' c = true) ∧
      name = front ++ Option.toList secure := by
  have longer {letters : Text} (same : EqualUpToCase (letters ++ ['s']) name) :
      ∃ front secure, EqualUpToCase letters front ∧ (∀ c ∈ secure, isLetterOf 's' c = true) ∧
        name = front ++ Option.toList secure := by
    have first := List.forall₂_take letters.length same
    have last := List.forall₂_drop letters.length same
    rw [List.take_left] at first
    rw [List.drop_left, List.forall₂_cons_left_iff] at last
    obtain ⟨c, rest, isSecure, empty, equal⟩ := last
    rw [List.forall₂_nil_left_iff] at empty
    refine ⟨name.take letters.length, some c, first, ?_, ?_⟩
    · rintro _ ⟨⟩
      exact isSecure
    · rw [Option.toList_some, ← empty, ← equal, List.take_append_drop]
  have unmarked : ∀ c ∈ (none : Option Char), isLetterOf 's' c = true :=
    fun c member => nomatch member
  simp only [webSchemes, List.mem_cons, List.not_mem_nil, or_false] at among
  rcases among with rfl | rfl | rfl | rfl
  · exact ⟨_, name, none, Or.inl rfl, same, unmarked, (List.append_nil _).symm⟩
  · obtain ⟨front, secure, rest⟩ := @longer "http".toList same
    exact ⟨_, front, secure, Or.inl rfl, rest⟩
  · exact ⟨_, name, none, Or.inr rfl, same, unmarked, (List.append_nil _).symm⟩
  · obtain ⟨front, secure, rest⟩ := @longer "ftp".toList same
    exact ⟨_, front, secure, Or.inr rfl, rest⟩

theorem afterWebScheme?_spells {text rest : Text} (found : afterWebScheme? text = some rest) :
    ∃ scheme ∈ webSchemes, ∃ name, EqualUpToCase scheme name ∧
      text = name ++ ("://".toList ++ rest) := by
  simp only [afterWebScheme?, Option.bind_eq_bind, Option.bind_eq_some_iff] at found
  obtain ⟨afterName, name, scheme⟩ := found
  have named : ∃ letters front, (letters = "http".toList ∨ letters = "ftp".toList) ∧
      text = front ++ afterName ∧ EqualUpToCase letters front := by
    rcases Option.or_eq_some_iff.mp name with web | ⟨-, file⟩
    · obtain ⟨front, equal, same⟩ := afterLetters?_spells web
      exact ⟨_, front, Or.inl rfl, equal, same⟩
    · obtain ⟨front, equal, same⟩ := afterLetters?_spells file
      exact ⟨_, front, Or.inr rfl, equal, same⟩
  obtain ⟨letters, front, which, rfl, same⟩ := named
  split at scheme
  · next head behind =>
    split at scheme
    · next isSecure =>
      have secure : EqualUpToCase (letters ++ ['s']) (front ++ [head]) :=
        List.rel_append same (.cons isSecure .nil)
      refine ⟨letters ++ ['s'], ?_, front ++ [head], secure, ?_⟩
      · rcases which with rfl | rfl <;> decide
      · rw [Text.after?_spells scheme]
        simp only [List.append_assoc, List.cons_append, List.nil_append]
    · refine ⟨letters, ?_, front, same, by rw [Text.after?_spells scheme]⟩
      rcases which with rfl | rfl <;> decide
  · cases scheme

/-- Every scheme is read in every case. -/
theorem afterWebScheme?_append {scheme name : Text} (among : scheme ∈ webSchemes)
    (same : EqualUpToCase scheme name) (rest : Text) :
    afterWebScheme? (name ++ ("://".toList ++ rest)) = some rest := by
  obtain ⟨letters, front, secure, which, sameLetters, isSecure, rfl⟩ := name_cases among same
  rw [List.append_assoc]
  have read : (afterLetters? "http".toList (front ++ (secure.toList ++ ("://".toList ++ rest)))).or
      (afterLetters? "ftp".toList (front ++ (secure.toList ++ ("://".toList ++ rest)))) =
        some (secure.toList ++ ("://".toList ++ rest)) := by
    rcases which with rfl | rfl
    · rw [afterLetters?_append sameLetters, Option.some_or]
    · obtain ⟨head, others, isLetter, -, rfl⟩ := List.forall₂_cons_left_iff.mp sameLetters
      rw [afterLetters?_append sameLetters, List.cons_append,
        afterLetters?_http_of_f isLetter, Option.none_or]
  have address := Text.after?_append "://".toList rest
  unfold afterWebScheme?
  rw [read]
  cases secure with
  | none => exact address
  | some c =>
    have letter : isLetterOf 's' c = true := isSecure c rfl
    simp only [Option.toList_some, List.singleton_append, Option.bind_eq_bind, Option.bind_some,
      letter, if_true]
    exact address

/-! ### URLs -/

/-- A bare URL: a scheme and at least one further character. -/
inductive IsBareUrl : Text → Prop where
  | intro {scheme name body : Text} (among : scheme ∈ webSchemes)
    (same : EqualUpToCase scheme name) (nonempty : body ≠ [])
    (inside : ∀ c ∈ body, isUrlChar c = true) : IsBareUrl (name ++ ("://".toList ++ body))

theorem plain_of_isUrlChar {c : Char} (inside : isUrlChar c = true) : c ≠ '<' ∧ c ≠ '\n' := by
  constructor
  · rintro rfl
    exact absurd inside (by decide)
  · rintro rfl
    exact absurd inside (by decide)

namespace IsBareUrl

variable {url : Text} (isUrl : IsBareUrl url)

include isUrl

theorem ne_nil : url ≠ [] := by
  obtain ⟨among, same, nonempty, inside⟩ := isUrl
  exact List.append_ne_nil_of_right_ne_nil _ (List.cons_ne_nil _ _)

theorem isUrlChar : ∀ c ∈ url, Html.isUrlChar c = true := by
  obtain ⟨among, same, nonempty, inside⟩ := isUrl
  refine List.forall_mem_append.mpr ⟨?_, List.forall_mem_append.mpr ⟨by decide, inside⟩⟩
  refine same.all (by decide) (by decide) fun letter member => ?_
  have each : ∀ scheme ∈ webSchemes, ∀ letter ∈ scheme, Html.isUrlChar letter = true := by decide
  exact each _ among letter member

/-- No part of a bare URL is markup or ends a line. -/
theorem plain : ∀ c ∈ url, c ≠ '<' ∧ c ≠ '\n' :=
  fun c member => plain_of_isUrlChar (isUrl.isUrlChar c member)

theorem noTag : '<' ∉ url := fun member => (isUrl.plain '<' member).1 rfl

theorem head?_ne : url.head? ≠ some '<' := fun tag => isUrl.noTag (List.mem_of_head? tag)

/-- A bare URL starts with the first letter of a scheme. -/
theorem starts :
    ∃ first ∈ url.head?, isLetterOf 'h' first = true ∨ isLetterOf 'f' first = true := by
  obtain ⟨among, same, nonempty, inside⟩ := isUrl
  simp only [webSchemes, List.mem_cons, List.not_mem_nil, or_false] at among
  rcases among with rfl | rfl | rfl | rfl
  all_goals obtain ⟨first, others, isLetter, -, rfl⟩ := List.forall₂_cons_left_iff.mp same
  · exact ⟨first, rfl, Or.inl isLetter⟩
  · exact ⟨first, rfl, Or.inl isLetter⟩
  · exact ⟨first, rfl, Or.inr isLetter⟩
  · exact ⟨first, rfl, Or.inr isLetter⟩

end IsBareUrl

/-- Whether no URL in front of a text goes on in it. -/
def EndsUrls (rest : Text) : Prop :=
  ∀ next ∈ rest.head?, isUrlChar next = false

/-- What is taken as a URL is one, and the longest one. -/
theorem urlPattern_spells (text : Text) :
    urlPattern text = 0 ∨ ∃ url behind, text = url ++ behind ∧ IsBareUrl url ∧
      EndsUrls behind ∧ urlPattern text = url.length := by
  unfold urlPattern
  split
  · exact Or.inl rfl
  · next rest found =>
    obtain ⟨scheme, among, name, same, rfl⟩ := afterWebScheme?_spells found
    dsimp only
    split
    · exact Or.inl rfl
    · next some' =>
      refine Or.inr ⟨name ++ ("://".toList ++ rest.takeWhile isUrlChar), rest.dropWhile isUrlChar,
        ?_, ?_, Text.stops_dropWhile isUrlChar rest, ?_⟩
      · simp only [List.append_assoc, List.takeWhile_append_dropWhile]
      · exact .intro among same (mt List.isEmpty_iff.mpr some')
          (List.all_eq_true.mp List.all_takeWhile)
      · simp only [List.length_append]
        omega

/-- A URL is taken exactly where one starts. -/
theorem urlPattern_ne_zero_iff {text : Text} :
    urlPattern text ≠ 0 ↔ ∃ url, IsBareUrl url ∧ url <+: text := by
  constructor
  · intro takes
    obtain ⟨url, behind, rfl, isUrl, -, -⟩ := (urlPattern_spells text).resolve_left takes
    exact ⟨url, isUrl, List.prefix_append url behind⟩
  · rintro ⟨url, isUrl, behind, rfl⟩
    obtain ⟨among, same, nonempty, inside⟩ := isUrl
    obtain ⟨first, others, rfl⟩ := List.exists_cons_of_ne_nil nonempty
    have read := afterWebScheme?_append among same (first :: others ++ behind)
    simp only [List.append_assoc] at read ⊢
    rw [urlPattern, read]
    have some' : ((first :: others ++ behind).takeWhile isUrlChar).isEmpty ≠ true := by
      rw [List.cons_append, List.takeWhile_cons_of_pos (inside first List.mem_cons_self)]
      exact Bool.false_ne_true
    have positive := List.length_pos_iff.mpr (mt List.isEmpty_iff.mpr some')
    dsimp only
    rw [if_neg some']
    omega

/-- A bare URL has a colon and two slashes in it. -/
theorem urlPattern_eq_zero {text : Text} (noAddress : ¬ "://".toList <:+: text) :
    urlPattern text = 0 := by
  by_contra takes
  obtain ⟨url, isUrl, starts⟩ := urlPattern_ne_zero_iff.mp takes
  obtain ⟨among, same, nonempty, inside⟩ := isUrl
  have address : "://".toList <:+: text :=
    ((List.prefix_append _ _).isInfix.trans (List.suffix_append _ _).isInfix).trans starts.isInfix
  exact noAddress address

/-! ### Anchors -/

/-- What stands in the start tag of an anchor behind its name. -/
def anchorAttribute (url : Text) : Text :=
  " href=\"".toList ++ (escapeAttribute url ++ ['"'])

theorem anchorTo_append (url rest : Text) :
    anchorTo url ++ rest =
      '<' :: 'a' :: (anchorAttribute url ++ '>' :: (url ++ '<' :: '/' :: 'a' :: '>' :: rest)) := by
  have opening : "<a href=\"".toList = ['<', 'a'] ++ " href=\"".toList := by decide
  have stop : "\">".toList = ['"', '>'] := by decide
  have ending : "</a>".toList = ['<', '/', 'a', '>'] := by decide
  unfold anchorTo anchorAttribute
  rw [stop, ending, opening]
  generalize " href=\"".toList = name
  simp only [List.append_assoc, List.cons_append, List.nil_append]

/-- The start tag of an anchor ends behind its attribute. -/
theorem end_not_mem_anchorAttribute (url : Text) : '>' ∉ anchorAttribute url := by
  refine List.not_mem_append (by decide) (List.not_mem_append (fun member => ?_) (by decide))
  exact absurd (not_reserved_of_mem_escapeAttribute member) (by decide)

theorem IsMarkup.linkFound {element : Text} (isMarkup : IsMarkup element) :
    linkFound element = element :=
  if_pos isMarkup.head?

theorem IsBareUrl.linkFound {url : Text} (isUrl : IsBareUrl url) :
    linkFound url = anchorTo (trimUrl url) ++ url.drop (trimUrl url).length :=
  if_neg isUrl.head?_ne

theorem linked_linkFound {url : Text} (isUrl : IsBareUrl url) : Linked url (linkFound url) := by
  have whole := trimUrl_append_drop url
  have piece : Linked (trimUrl url ++ url.drop (trimUrl url).length)
      (anchorTo (trimUrl url) ++ url.drop (trimUrl url).length) :=
    Linked.url (by rw [whole]; exact isUrl.plain) (by rw [whole]; exact isUrl.starts)
  rw [whole] at piece
  rwa [isUrl.linkFound]

/-! ### Autolinking -/

theorem autolinkPattern_eq (text : Text) :
    autolinkPattern text =
      match markupPattern text with
      | 0 => urlPattern text
      | taken => taken := by
  unfold autolinkPattern markupPattern
  cases anchorPattern text <;> rfl

theorem autolinkPattern_of_zero {text : Text} (noMarkup : markupPattern text = 0) :
    autolinkPattern text = urlPattern text := by
  simp only [autolinkPattern_eq, noMarkup]

theorem autolinkPattern_of_ne_zero {text : Text} (markup : markupPattern text ≠ 0) :
    autolinkPattern text = markupPattern text := by
  rw [autolinkPattern_eq]
  split
  · contradiction
  · rfl

/-- What autolinking takes whole is markup or a bare URL. -/
theorem of_autolinkPattern_takes {front rest : Text} (nonempty : front ≠ [])
    (takes : autolinkPattern (front ++ rest) = front.length) :
    (IsMarkup front ∧ markupPattern (front ++ rest) = front.length) ∨
      (IsBareUrl front ∧ EndsUrls rest) := by
  have some' : front.length ≠ 0 := mt List.length_eq_zero_iff.mp nonempty
  by_cases noMarkup : markupPattern (front ++ rest) = 0
  · rw [autolinkPattern_of_zero noMarkup] at takes
    rcases urlPattern_spells (front ++ rest) with none | ⟨url, behind, whole, isUrl, stops, size⟩
    · exact absurd (takes.symm.trans none) some'
    · obtain ⟨rfl, rfl⟩ := List.append_inj whole (takes.symm.trans size)
      exact Or.inr ⟨isUrl, stops⟩
  · rw [autolinkPattern_of_ne_zero noMarkup] at takes
    obtain ⟨element, behind, whole, isMarkup, size⟩ :=
      (markupPattern_spells (front ++ rest)).resolve_left noMarkup
    obtain ⟨rfl, rfl⟩ := List.append_inj whole (takes.symm.trans size)
    exact Or.inl ⟨isMarkup, takes⟩

theorem markupPattern_of_autolinkPattern {text : Text} (noMatch : autolinkPattern text = 0) :
    markupPattern text = 0 := by
  by_contra markup
  rw [autolinkPattern_of_ne_zero markup] at noMatch
  exact markup noMatch

theorem autolinkPattern_fits : Text.Fits autolinkPattern := by
  intro text
  by_cases noMarkup : markupPattern text = 0
  · rw [autolinkPattern_of_zero noMarkup]
    rcases urlPattern_spells text with none | ⟨url, behind, rfl, -, -, size⟩
    · exact none ▸ Nat.zero_le _
    · exact size ▸ (List.prefix_append url behind).length_le
  · rw [autolinkPattern_of_ne_zero noMarkup]
    obtain ⟨element, behind, rfl, -, size⟩ := (markupPattern_spells text).resolve_left noMarkup
    exact size ▸ (List.prefix_append element behind).length_le

theorem autolinkPattern_of_ne {head : Char} (other : head ≠ '<') (rest : Text) :
    autolinkPattern (head :: rest) = urlPattern (head :: rest) :=
  autolinkPattern_of_zero (markupPattern_of_ne other rest)

theorem autolink_cons_of_zero {head : Char} {rest : Text}
    (noMatch : autolinkPattern (head :: rest) = 0) :
    autolink (head :: rest) = head :: autolink rest :=
  Text.substitute_cons_of_zero noMatch

/-- A front that is taken whole is linked. -/
theorem autolink_append_of_match {front : Text} (nonempty : front ≠ []) (rest : Text)
    (takes : autolinkPattern (front ++ rest) = front.length) :
    autolink (front ++ rest) = linkFound front ++ autolink rest :=
  Text.substitute_append_of_match nonempty rest takes

/-- Text without tags and addresses is left alone. -/
theorem autolink_plain_append {front : Text} (plain : '<' ∉ front) {rest : Text}
    (noAddress : ¬ "://".toList <:+: front ++ rest) :
    autolink (front ++ rest) = front ++ autolink rest := by
  refine Text.substitute_append_of_silent fun tail nonempty inside => ?_
  obtain ⟨head, others, rfl⟩ := List.exists_cons_of_ne_nil nonempty
  have other : head ≠ '<' := by
    rintro rfl
    exact plain (inside.subset List.mem_cons_self)
  have suffix : head :: others ++ rest <:+ front ++ rest := by
    obtain ⟨before, rfl⟩ := inside
    exact ⟨before, (List.append_assoc _ _ _).symm⟩
  rw [List.cons_append, autolinkPattern_of_ne other]
  exact urlPattern_eq_zero fun address => noAddress (address.trans suffix.isInfix)

/-- The first piece of a text that ends in a tag, and how it is written. -/
theorem autolink_cases {text : Text} (ends : text.getLast? = some '>') :
    ∃ piece written rest, Linked piece written ∧ piece ≠ [] ∧ text = piece ++ rest ∧
      autolink text = written ++ autolink rest := by
  obtain ⟨head, rest, rfl⟩ := List.exists_cons_of_ne_nil (l := text) (by rintro rfl; cases ends)
  by_cases tag : head = '<'
  · subst tag
    have inRest : '>' ∈ rest :=
      (List.mem_cons.mp (List.mem_of_getLast? ends)).resolve_left (by decide)
    have some' := markupPattern_ne_zero inRest
    obtain ⟨element, behind, whole, isMarkup, takes⟩ :=
      (markupPattern_spells ('<' :: rest)).resolve_left some'
    have pattern := autolinkPattern_of_ne_zero some'
    refine ⟨element, element, behind, Linked.tag isMarkup.head? isMarkup.getLast?,
      isMarkup.ne_nil, whole, ?_⟩
    rw [whole] at takes pattern ⊢
    rw [autolink_append_of_match isMarkup.ne_nil behind (pattern.trans takes), isMarkup.linkFound]
  · have pattern := autolinkPattern_of_ne tag rest
    rcases urlPattern_spells (head :: rest) with none | ⟨url, behind, whole, isUrl, -, takes⟩
    · refine ⟨[head], [head], rest, Linked.kept tag, List.cons_ne_nil _ _, rfl, ?_⟩
      exact autolink_cons_of_zero (pattern.trans none)
    · refine ⟨url, linkFound url, behind, linked_linkFound isUrl, isUrl.ne_nil, whole, ?_⟩
      rw [whole] at pattern takes ⊢
      exact autolink_append_of_match isUrl.ne_nil behind (pattern.trans takes)

end Html

end BookMarkup
