/-
This file proves when autolinking is done after one pass. A second pass takes each anchor
whole, and between the anchors it finds no URL that the first pass did not find: a URL
never reaches past the `<` of an anchor, and what is left in front of one is no longer than
it was. What is left to find stands in what was trimmed off the URLs. Punctuation and
parentheses hold no URL, so it stands behind a reference of a no-break space, which ends
the linked part of a URL but not the URL that was taken.
-/

import BookMarkup.Proofs.Html.Segment

namespace BookMarkup

namespace Html

/-! ### Where URLs end -/

/-- What holds characters of one kind ends where a text goes on with another one. -/
theorem prefix_of_stops {holds : Char → Bool} {piece front rest : Text}
    (all : ∀ c ∈ piece, holds c = true) (stops : ∀ next ∈ rest.head?, holds next = false)
    (starts : piece <+: front ++ rest) : piece <+: front := by
  obtain ⟨behind, whole⟩ := starts
  rcases List.append_eq_append_iff.mp whole with ⟨more, rfl, -⟩ | ⟨more, rfl, rfl⟩
  · exact List.prefix_append piece more
  · cases more with
    | nil => rw [List.append_nil]
    | cons next others =>
      have here := all next (List.mem_append_right front List.mem_cons_self)
      rw [stops next rfl] at here
      cases here

theorem prefix_takeWhile {holds : Char → Bool} {piece text : Text}
    (all : ∀ c ∈ piece, holds c = true) (starts : piece <+: text) :
    piece <+: text.takeWhile holds := by
  refine prefix_of_stops all (Text.stops_dropWhile holds text) ?_
  rwa [List.takeWhile_append_dropWhile]

theorem autolinkPattern_eq_zero_iff {head : Char} (other : head ≠ '<') {rest : Text} :
    autolinkPattern (head :: rest) = 0 ↔ ∀ url, IsBareUrl url → ¬ url <+: head :: rest := by
  rw [autolinkPattern_of_ne other, ← not_iff_not, ← Ne, urlPattern_ne_zero_iff]
  push Not
  rfl

/-- A URL is taken whole where it ends. -/
theorem autolinkPattern_url_append {url rest : Text} (isUrl : IsBareUrl url)
    (stops : EndsUrls rest) : autolinkPattern (url ++ rest) = url.length := by
  obtain ⟨head, others, rfl⟩ := List.exists_cons_of_ne_nil isUrl.ne_nil
  have other := (isUrl.plain head List.mem_cons_self).1
  have takes := urlPattern_ne_zero_iff.mpr ⟨_, isUrl, List.prefix_append (head :: others) rest⟩
  obtain ⟨found, behind, whole, isFound, ends, size⟩ := (urlPattern_spells _).resolve_left takes
  have inside : found <+: head :: others :=
    prefix_of_stops isFound.isUrlChar stops (whole ▸ List.prefix_append found behind)
  have covers : head :: others <+: found :=
    prefix_of_stops isUrl.isUrlChar ends (whole ▸ List.prefix_append (head :: others) rest)
  rw [List.cons_append, autolinkPattern_of_ne other, ← List.cons_append, size]
  exact le_antisymm inside.length_le covers.length_le

/-- What a text without markup has in front of its first anchor is the start of it. -/
theorem takeWhile_autolink {text : Text} (plain : '<' ∉ text) :
    (autolink text).takeWhile isUrlChar <+: text := by
  induction text, plain using plain_induction with
  | nil => exact List.prefix_refl []
  | kept head rest other later noMatch inductionHypothesis =>
    rw [autolink_cons_of_zero noMatch, List.takeWhile_cons]
    split
    · exact (List.prefix_append_right_inj [head]).mpr inductionHypothesis
    · exact List.nil_prefix
  | url url rest isUrl later takes stops inductionHypothesis =>
    rw [autolink_append_of_match isUrl.ne_nil rest takes, isUrl.linkFound, List.append_assoc,
      anchorTo_append, List.takeWhile_cons_of_neg (by decide)]
    exact List.nil_prefix

theorem endsUrls_autolink {text : Text} (plain : '<' ∉ text) (stops : EndsUrls text) :
    EndsUrls (autolink text) := by
  intro next inHead
  by_contra ends
  have goesOn : isUrlChar next = true := Bool.not_eq_false _ ▸ ends
  obtain ⟨others, equal⟩ := List.head?_eq_some_iff.mp (Option.mem_def.mp inHead)
  have starts := takeWhile_autolink plain
  rw [equal, List.takeWhile_cons_of_pos goesOn] at starts
  obtain ⟨behind, rfl⟩ := starts
  exact ends (stops next rfl)

/-- What is no URL in a text is none in front of its anchors. -/
theorem autolinkPattern_cons_autolink {head : Char} (other : '<' ≠ head) {rest : Text}
    (plain : '<' ∉ rest) (noMatch : autolinkPattern (head :: rest) = 0) :
    autolinkPattern (head :: autolink rest) = 0 := by
  rw [autolinkPattern_eq_zero_iff other.symm] at noMatch ⊢
  intro url isUrl starts
  refine noMatch url isUrl ?_
  have kept := prefix_takeWhile isUrl.isUrlChar starts
  rw [List.takeWhile_cons] at kept
  split at kept
  · exact kept.trans ((List.prefix_append_right_inj [head]).mpr (takeWhile_autolink plain))
  · exact kept.trans List.nil_prefix

/-- Two texts are linked on their own where no URL goes on from one to the other. -/
theorem autolink_append_of_endsUrls {front : Text} (plain : '<' ∉ front) {rest : Text}
    (stops : EndsUrls rest) : autolink (front ++ rest) = autolink front ++ autolink rest := by
  induction front, plain using plain_induction with
  | nil => rfl
  | kept head inner other later noMatch inductionHypothesis =>
    have still : autolinkPattern (head :: (inner ++ rest)) = 0 := by
      rw [autolinkPattern_eq_zero_iff other.symm] at noMatch ⊢
      exact fun url isUrl starts => noMatch url isUrl (prefix_of_stops isUrl.isUrlChar stops starts)
    rw [List.cons_append, autolink_cons_of_zero still, autolink_cons_of_zero noMatch,
      inductionHypothesis, List.cons_append]
  | url url inner isUrl later takes ends inductionHypothesis =>
    have both : EndsUrls (inner ++ rest) := by
      cases inner with
      | nil => exact stops
      | cons next others => exact ends
    rw [List.append_assoc, autolink_append_of_match isUrl.ne_nil _
      (autolinkPattern_url_append isUrl both), autolink_append_of_match isUrl.ne_nil inner takes,
      inductionHypothesis, List.append_assoc]

/-! ### Anchors are passed over -/

theorem afterAnchorEnd?_append {content : Text} (plain : '<' ∉ content) (rest : Text) :
    afterAnchorEnd? (content ++ '<' :: '/' :: 'a' :: '>' :: rest) = some rest := by
  induction content with
  | nil => rfl
  | cons head content inductionHypothesis =>
    have other : '<' ≠ head := List.ne_of_not_mem_cons plain
    rw [List.cons_append, afterAnchorEnd?,
      inductionHypothesis (List.not_mem_of_not_mem_cons plain)]
    rintro letter others rfl
    exact absurd rfl other

theorem anchorPattern_anchorTo_append {url : Text} (plain : '<' ∉ url) (rest : Text) :
    anchorPattern (anchorTo url ++ rest) = (anchorTo url).length := by
  have whole := anchorTo_append url rest
  have size := congrArg List.length whole
  have inside : ∀ c ∈ anchorAttribute url, (c != '>') = true := by
    rintro c member
    rw [bne_iff_ne]
    rintro rfl
    exact end_not_mem_anchorAttribute url member
  have starts : (anchorAttribute url ++ '>' :: (url ++ '<' :: '/' :: 'a' :: '>' :: rest)).head? =
      some ' ' := rfl
  have content : (anchorAttribute url ++ '>' :: (url ++ '<' :: '/' :: 'a' :: '>' :: rest)).dropWhile
      (· != '>') = '>' :: (url ++ '<' :: '/' :: 'a' :: '>' :: rest) := by
    rw [List.dropWhile_append_of_pos inside, List.dropWhile_cons_of_neg (by decide)]
  rw [whole, anchorPattern, starts, content]
  simp only [afterAnchorEnd?_append plain]
  rw [if_pos (by decide)]
  simp only [List.length_append, List.length_cons] at size ⊢
  omega

/-- A second pass leaves an anchor alone. -/
theorem autolink_anchorTo_append {url : Text} (plain : '<' ∉ url) (rest : Text) :
    autolink (anchorTo url ++ rest) = anchorTo url ++ autolink rest := by
  have starts : (anchorTo url).head? = some '<' := rfl
  have nonempty : anchorTo url ≠ [] := by
    intro empty
    rw [empty] at starts
    cases starts
  have anchor := anchorPattern_anchorTo_append plain rest
  have some' : anchorPattern (anchorTo url ++ rest) ≠ 0 := by
    rw [anchor]
    exact mt List.length_eq_zero_iff.mp nonempty
  have markup := markupPattern_of_ne_zero some'
  have takes := autolinkPattern_of_ne_zero (markup.trans_ne some')
  rw [autolink_append_of_match nonempty rest (takes.trans (markup.trans anchor)), linkFound,
    if_pos starts]

/-! ### Text that autolinking leaves alone -/

/-- Whether a text holds a bare URL. -/
def HoldsUrl (text : Text) : Prop :=
  ∃ url, IsBareUrl url ∧ url <:+: text

theorem length_linkFound {url : Text} (isUrl : IsBareUrl url) :
    url.length < (linkFound url).length := by
  have cut := congrArg List.length (trimUrl_append_drop url)
  have tags : ∀ shown, shown.length < (anchorTo shown).length := by
    intro shown
    have size := congrArg List.length (anchorTo_append shown [])
    simp only [List.append_nil, List.length_append, List.length_cons] at size
    omega
  rw [List.length_append] at cut
  rw [isUrl.linkFound, List.length_append, ← cut]
  exact Nat.add_lt_add_right (tags (trimUrl url)) _

/-- Autolinking makes no text shorter. -/
theorem length_le_autolink (text : Text) : text.length ≤ (autolink text).length := by
  induction text using segment_induction with
  | nil => exact le_refl _
  | kept head rest noMatch inductionHypothesis =>
    rw [autolink_cons_of_zero noMatch]
    exact Nat.succ_le_succ inductionHypothesis
  | markup element rest isMarkup takes same inductionHypothesis =>
    rw [autolink_append_of_match isMarkup.ne_nil rest takes, isMarkup.linkFound,
      List.length_append, List.length_append]
    exact Nat.add_le_add_left inductionHypothesis _
  | url url rest isUrl takes stops inductionHypothesis =>
    rw [autolink_append_of_match isUrl.ne_nil rest takes, List.length_append, List.length_append]
    exact Nat.add_le_add (length_linkFound isUrl).le inductionHypothesis

theorem holdsUrl_append_of_url {url : Text} (isUrl : IsBareUrl url) (rest : Text) :
    HoldsUrl (url ++ rest) :=
  ⟨url, isUrl, (List.prefix_append url rest).isInfix⟩

/-- A text is left alone exactly if it holds no bare URL. -/
theorem autolink_eq_self_iff {text : Text} (plain : '<' ∉ text) :
    autolink text = text ↔ ¬ HoldsUrl text := by
  induction text, plain using plain_induction with
  | nil =>
    refine iff_of_true rfl ?_
    rintro ⟨url, isUrl, inside⟩
    exact isUrl.ne_nil (List.infix_nil.mp inside)
  | kept head rest other plain noMatch inductionHypothesis =>
    have same : HoldsUrl (head :: rest) ↔ HoldsUrl rest := by
      constructor
      · rintro ⟨url, isUrl, inside⟩
        refine ⟨url, isUrl, (List.infix_cons_iff.mp inside).resolve_left ?_⟩
        exact (autolinkPattern_eq_zero_iff other.symm).mp noMatch url isUrl
      · rintro ⟨url, isUrl, inside⟩
        exact ⟨url, isUrl, List.infix_cons inside⟩
    rw [autolink_cons_of_zero noMatch, same, ← inductionHypothesis, List.cons.injEq,
      and_iff_right rfl]
  | url url rest isUrl plain takes stops inductionHypothesis =>
    refine iff_of_false (fun same => ?_) (not_not_intro (holdsUrl_append_of_url isUrl rest))
    have size := congrArg List.length same
    rw [autolink_append_of_match isUrl.ne_nil rest takes, List.length_append,
      List.length_append] at size
    have longer := length_linkFound isUrl
    have least := length_le_autolink rest
    omega

/-! ### What trimming hides -/

/-- A URL lies behind text that holds no letter with which one starts. -/
theorem holdsUrl_append_iff {front : Text}
    (noStart : ∀ c ∈ front, isLetterOf 'h' c = false ∧ isLetterOf 'f' c = false) {rest : Text} :
    HoldsUrl (front ++ rest) ↔ HoldsUrl rest := by
  induction front with
  | nil => rfl
  | cons head front inductionHypothesis =>
    obtain ⟨here, later⟩ := List.forall_mem_cons.mp noStart
    rw [← inductionHypothesis later, List.cons_append]
    constructor
    · rintro ⟨url, isUrl, inside⟩
      refine ⟨url, isUrl, (List.infix_cons_iff.mp inside).resolve_left fun starts => ?_⟩
      obtain ⟨first, inHead, isStart⟩ := isUrl.starts
      obtain ⟨others, rfl⟩ := List.head?_eq_some_iff.mp (Option.mem_def.mp inHead)
      cases (List.cons_prefix_cons.mp starts).1
      rw [here.1, here.2] at isStart
      exact isStart.elim Bool.noConfusion Bool.noConfusion
    · rintro ⟨url, isUrl, inside⟩
      exact ⟨url, isUrl, List.infix_cons inside⟩

theorem not_holdsUrl_nil : ¬ HoldsUrl [] := by
  rintro ⟨url, isUrl, inside⟩
  exact isUrl.ne_nil (List.infix_nil.mp inside)

/-- What is trimmed off a URL holds another one exactly if one stands behind a reference of a
no-break space. -/
theorem holdsUrl_trimmed_iff (source : Text) :
    HoldsUrl (source.drop (trimUrl source).length) ↔
      ∃ parts ∈ Text.breakOn noBreakSpace source, HoldsUrl parts.2 := by
  obtain ⟨marks, whole, trimmed⟩ := trimUrl_spells source
  have inMarks : ∀ c ∈ marks, isLetterOf 'h' c = false ∧ isLetterOf 'f' c = false := by
    have among : ∀ c ∈ ").,;:!?".toList, isLetterOf 'h' c = false ∧ isLetterOf 'f' c = false := by
      decide
    exact fun c member => among c (mem_of_trimmed (trimmed c member))
  have inReference : ∀ c ∈ noBreakSpace, isLetterOf 'h' c = false ∧ isLetterOf 'f' c = false := by
    decide
  have cut {rest : Text} (spelled : source = trimUrl source ++ rest) :
      source.drop (trimUrl source).length = rest :=
    List.append_cancel_left ((trimUrl_append_drop source).trans spelled)
  cases found : Text.breakOn noBreakSpace source with
  | none =>
    rw [beforeJoin_of_none found] at whole
    rw [cut whole, ← List.append_nil marks, holdsUrl_append_iff inMarks]
    refine iff_of_false not_holdsUrl_nil ?_
    rintro ⟨parts, ⟨⟩, -⟩
  | some parts =>
    have spelled := Text.breakOn_spells found
    rw [beforeJoin_of_some found] at whole
    rw [whole, List.append_assoc, List.append_assoc] at spelled
    rw [cut spelled, holdsUrl_append_iff inMarks, holdsUrl_append_iff inReference]
    constructor
    · exact fun holds => ⟨parts, rfl, holds⟩
    · rintro ⟨_, ⟨⟩, holds⟩
      exact holds

/-! ### Main theorem -/

/-- In a text without markup, a second pass finds nothing new exactly if no URL is left behind a
reference of a no-break space that a taken URL runs over. -/
theorem relinking_changes_nothing_iff {text : Text} (plain : '<' ∉ text) :
    autolink (autolink text) = autolink text ↔
      ∀ source ∈ bareUrls text, ∀ parts ∈ Text.breakOn noBreakSpace source,
        ¬ HoldsUrl parts.2 := by
  induction text, plain using plain_induction with
  | nil => exact iff_of_true rfl fun source member => (List.not_mem_nil member).elim
  | kept head rest other plain noMatch inductionHypothesis =>
    rw [autolink_cons_of_zero noMatch,
      autolink_cons_of_zero (autolinkPattern_cons_autolink other plain noMatch),
      bareUrls_cons_of_zero noMatch, ← inductionHypothesis, List.cons.injEq, and_iff_right rfl]
  | url url rest isUrl plain takes stops inductionHypothesis =>
    have linked : '<' ∉ trimUrl url :=
      fun member => isUrl.noTag ((trimUrl_starts url).subset member)
    have trimmed : '<' ∉ url.drop (trimUrl url).length :=
      fun member => isUrl.noTag (List.mem_of_mem_drop member)
    have here : (∀ parts ∈ Text.breakOn noBreakSpace url, ¬ HoldsUrl parts.2) ↔
        autolink (url.drop (trimUrl url).length) = url.drop (trimUrl url).length := by
      rw [autolink_eq_self_iff trimmed, holdsUrl_trimmed_iff]
      push Not
      rfl
    rw [autolink_append_of_match isUrl.ne_nil rest takes, isUrl.linkFound, List.append_assoc,
      autolink_anchorTo_append linked,
      autolink_append_of_endsUrls trimmed (endsUrls_autolink plain stops),
      bareUrls_url_append isUrl takes, List.forall_mem_cons, here, ← inductionHypothesis,
      List.append_cancel_left_eq]
    constructor
    · intro same
      have size := congrArg List.length same
      have first := length_le_autolink (url.drop (trimUrl url).length)
      have second := length_le_autolink (autolink rest)
      rw [List.length_append, List.length_append] at size
      exact List.append_inj same (by omega)
    · rintro ⟨first, second⟩
      rw [first, second]

/-- A second pass changes nothing where a word without a URL is joined to a linked one. -/
theorem relinking_changes_nothing_beside_word :
    '<' ∉ "http://a, (http://b.)&nbsp;c".toList ∧
      autolink (autolink "http://a, (http://b.)&nbsp;c".toList) =
        autolink "http://a, (http://b.)&nbsp;c".toList := by
  refine ⟨by decide, (relinking_changes_nothing_iff (by decide)).mpr ?_⟩
  have found : bareUrls "http://a, (http://b.)&nbsp;c".toList =
      ["http://a,".toList, "http://b.)&nbsp;c".toList] := by decide
  have first : Text.breakOn noBreakSpace "http://a,".toList = none := by decide
  have second : Text.breakOn noBreakSpace "http://b.)&nbsp;c".toList =
      some ("http://b.)".toList, "c".toList) := by decide
  rw [found, List.forall_mem_cons, List.forall_mem_singleton, first, second]
  refine ⟨fun parts absent => Option.not_mem_none parts absent |>.elim, ?_⟩
  rintro parts ⟨⟩
  exact (autolink_eq_self_iff (by decide)).mp (by decide)

/-- A second pass may find a URL that the first one left. -/
theorem relinking_may_find_more :
    ¬ ∀ text : Text, '<' ∉ text → autolink (autolink text) = autolink text := by
  intro always
  have twice := always "http://a&nbsp;http://b".toList (by decide)
  exact absurd twice (by decide)

end Html

end BookMarkup
