/-
This file proves that autolinking only adds anchors. It cuts a text into segments: markup
that is passed over, URLs, and the text around them. Each segment but the URLs is written
as it stands, and a URL is written as an anchor that shows it. A URL holds no `<`, so no
tag starts inside of one, and a scan for markup alone finds the same markup at the same
places. Taking the anchors out again gives a text without markup back.
-/

import BookMarkup.Proofs.Html.Autolink
import BookMarkup.Proofs.Html.Tag

namespace BookMarkup

namespace Html

/-! ### Segments -/

/-- A stretch of a text that is autolinked. -/
inductive Segment where
  /-- Text that is neither markup nor linked. -/
  | kept (text : Text)
  /-- A tag or an anchor element. -/
  | markup (element : Text)
  /-- A URL that gets an anchor. -/
  | address (url : Text)
  deriving DecidableEq, Repr

namespace Segment

/-- The text that a segment is cut from. -/
def source : Segment → Text
  | .kept text => text
  | .markup element => element
  | .address url => url

/-- What a segment becomes: a URL stands in an anchor that points to it. -/
def written : Segment → Text
  | .kept text => text
  | .markup element => element
  | .address url =>
    "<a href=\"".toList ++ escapeAttribute url ++ "\">".toList ++ url ++ "</a>".toList

/-- What a scan for markup alone finds in a segment. -/
def scanned : Segment → List Text.Piece
  | .kept text => text.map .kept
  | .markup element => [.found element]
  | .address url => url.map .kept

end Segment

/-- The segments of a found piece. What is trimmed off a URL stays text. -/
def foundSegments (source : Text) : List Segment :=
  if source.head? = some '<' then [.markup source]
  else [.address (trimUrl source), .kept (source.drop (trimUrl source).length)]

/-- The segments of a text. -/
def segments (text : Text) : List Segment :=
  (Text.pieces autolinkPattern text).flatMap fun piece =>
    match piece with
    | .kept c => [.kept [c]]
    | .found source => foundSegments source

theorem IsMarkup.foundSegments {element : Text} (isMarkup : IsMarkup element) :
    foundSegments element = [.markup element] :=
  if_pos isMarkup.head?

theorem IsBareUrl.foundSegments {url : Text} (isUrl : IsBareUrl url) :
    foundSegments url = [.address (trimUrl url), .kept (url.drop (trimUrl url).length)] :=
  if_neg isUrl.head?_ne

theorem segments_cons_of_zero {head : Char} {rest : Text}
    (noMatch : autolinkPattern (head :: rest) = 0) :
    segments (head :: rest) = .kept [head] :: segments rest := by
  rw [segments, Text.pieces_cons_of_zero noMatch]
  rfl

theorem segments_append_of_match {front : Text} (nonempty : front ≠ []) (rest : Text)
    (takes : autolinkPattern (front ++ rest) = front.length) :
    segments (front ++ rest) = foundSegments front ++ segments rest := by
  rw [segments, Text.pieces_append_of_match nonempty rest takes]
  rfl

/-- Of each piece of a text, autolinking finds markup or a bare URL, or it keeps a character. -/
@[elab_as_elim]
theorem segment_induction {motive : Text → Prop} (nil : motive [])
    (kept : ∀ head rest, autolinkPattern (head :: rest) = 0 → motive rest → motive (head :: rest))
    (markup : ∀ element rest, IsMarkup element →
      autolinkPattern (element ++ rest) = element.length →
      markupPattern (element ++ rest) = element.length → motive rest → motive (element ++ rest))
    (url : ∀ url rest, IsBareUrl url → autolinkPattern (url ++ rest) = url.length →
      EndsUrls rest → motive rest → motive (url ++ rest))
    (text : Text) : motive text := by
  induction text using Text.scan_induction autolinkPattern_fits with
  | nil => exact nil
  | kept head rest noMatch inductionHypothesis => exact kept head rest noMatch inductionHypothesis
  | found front rest nonempty takes inductionHypothesis =>
    rcases of_autolinkPattern_takes nonempty takes with ⟨isMarkup, same⟩ | ⟨isUrl, stops⟩
    · exact markup front rest isMarkup takes same inductionHypothesis
    · exact url front rest isUrl takes stops inductionHypothesis

/-- In a text without `<` there is no markup to find. -/
@[elab_as_elim]
theorem plain_induction {motive : ∀ text : Text, '<' ∉ text → Prop}
    (nil : motive [] List.not_mem_nil)
    (kept : ∀ head rest (other : '<' ≠ head) (plain : '<' ∉ rest),
      autolinkPattern (head :: rest) = 0 → motive rest plain →
        motive (head :: rest) (List.not_mem_cons_of_ne_of_not_mem other plain))
    (url : ∀ url rest (isUrl : IsBareUrl url) (plain : '<' ∉ rest),
      autolinkPattern (url ++ rest) = url.length → EndsUrls rest → motive rest plain →
        motive (url ++ rest) (List.not_mem_append isUrl.noTag plain))
    (text : Text) (plain : '<' ∉ text) : motive text plain := by
  induction text using segment_induction with
  | nil => exact nil
  | kept head rest noMatch inductionHypothesis =>
    have other : '<' ≠ head := List.ne_of_not_mem_cons plain
    have later : '<' ∉ rest := List.not_mem_of_not_mem_cons plain
    exact kept head rest other later noMatch (inductionHypothesis later)
  | markup element rest isMarkup takes same inductionHypothesis =>
    exact absurd (List.mem_append_left rest (List.mem_of_head? isMarkup.head?)) plain
  | url source rest isUrl takes stops inductionHypothesis =>
    have later : '<' ∉ rest := fun member => plain (List.mem_append_right source member)
    exact url source rest isUrl later takes stops (inductionHypothesis later)

/-- The segments spell the text. -/
theorem flatMap_source_segments (text : Text) :
    (segments text).flatMap Segment.source = text := by
  induction text using segment_induction with
  | nil => rfl
  | kept head rest noMatch inductionHypothesis =>
    rw [segments_cons_of_zero noMatch, List.flatMap_cons, inductionHypothesis]
    rfl
  | markup element rest isMarkup takes same inductionHypothesis =>
    rw [segments_append_of_match isMarkup.ne_nil rest takes, isMarkup.foundSegments,
      List.flatMap_append, inductionHypothesis, List.flatMap_singleton]
    rfl
  | url url rest isUrl takes stops inductionHypothesis =>
    rw [segments_append_of_match isUrl.ne_nil rest takes, isUrl.foundSegments,
      List.flatMap_append, inductionHypothesis]
    conv_rhs => rw [← trimUrl_append_drop url]
    simp only [List.flatMap_cons, List.flatMap_nil, Segment.source, List.append_nil]

/-- What the segments become is the text with its anchors. -/
theorem flatMap_written_segments (text : Text) :
    (segments text).flatMap Segment.written = autolink text := by
  induction text using segment_induction with
  | nil => rfl
  | kept head rest noMatch inductionHypothesis =>
    rw [segments_cons_of_zero noMatch, List.flatMap_cons, inductionHypothesis,
      autolink_cons_of_zero noMatch]
    rfl
  | markup element rest isMarkup takes same inductionHypothesis =>
    rw [segments_append_of_match isMarkup.ne_nil rest takes, isMarkup.foundSegments,
      List.flatMap_append, inductionHypothesis, List.flatMap_singleton,
      autolink_append_of_match isMarkup.ne_nil rest takes, isMarkup.linkFound]
    rfl
  | url url rest isUrl takes stops inductionHypothesis =>
    rw [segments_append_of_match isUrl.ne_nil rest takes, isUrl.foundSegments,
      List.flatMap_append, inductionHypothesis, autolink_append_of_match isUrl.ne_nil rest takes,
      isUrl.linkFound]
    have anchored : (Segment.address (trimUrl url)).written = anchorTo (trimUrl url) := rfl
    have behind (text : Text) : (Segment.kept text).written = text := rfl
    simp only [List.flatMap_cons, List.flatMap_nil, anchored, behind, List.append_nil]

/-- A scan for markup alone finds the same markup. -/
theorem flatMap_scanned_segments (text : Text) :
    (segments text).flatMap Segment.scanned = Text.pieces markupPattern text := by
  induction text using segment_induction with
  | nil => rfl
  | kept head rest noMatch inductionHypothesis =>
    rw [segments_cons_of_zero noMatch, List.flatMap_cons, inductionHypothesis,
      Text.pieces_cons_of_zero (markupPattern_of_autolinkPattern noMatch)]
    rfl
  | markup element rest isMarkup takes same inductionHypothesis =>
    rw [segments_append_of_match isMarkup.ne_nil rest takes, isMarkup.foundSegments,
      List.flatMap_append, inductionHypothesis, List.flatMap_singleton,
      Text.pieces_append_of_match isMarkup.ne_nil rest same]
    rfl
  | url url rest isUrl takes stops inductionHypothesis =>
    have kept : ∀ c ∈ url, c ≠ '<' := fun c member => (isUrl.plain c member).1
    rw [segments_append_of_match isUrl.ne_nil rest takes, isUrl.foundSegments,
      List.flatMap_append, inductionHypothesis,
      Text.pieces_append_of_quiet (fun _ rest other => markupPattern_of_ne other rest) kept]
    conv_rhs => rw [← trimUrl_append_drop url, List.map_append]
    simp only [List.flatMap_cons, List.flatMap_nil, Segment.scanned, List.append_nil]

/-! ### Linked URLs -/

/-- A URL that gets an anchor: it starts with a scheme in some case and two slashes, and holds no
character that ends a URL and no reference of a no-break space. -/
structure IsAddress (url : Text) : Prop where
  scheme : ∃ scheme ∈ webSchemes, ∃ name, EqualUpToCase scheme name ∧ name ++ "://".toList <+: url
  inside : ∀ c ∈ url, isBlank c = false ∧ c ≠ '<' ∧ c ≠ '>' ∧ c ≠ '"'
  unjoined : ¬ noBreakSpace <:+: url

/-- What is linked of a bare URL still starts with the scheme. -/
theorem IsBareUrl.isAddress {url : Text} (isUrl : IsBareUrl url) : IsAddress (trimUrl url) := by
  have chars := isUrl.isUrlChar
  have front := trimUrl_starts url
  obtain ⟨tail, whole, -⟩ := trimUrl_spells url
  refine ⟨?_, fun c member => ?_, fun inside => not_infix_beforeJoin url ?_⟩
  · cases isUrl with
    | @intro scheme name body among same nonempty inside =>
      have noSign : ∀ scheme ∈ webSchemes, ∀ letter ∈ scheme, (letter != '&') = true := by decide
      have named : ∀ c ∈ name, (c != '&') = true :=
        same.all (by decide) (by decide) (noSign scheme among)
      have noReference : '&' ∉ name ++ "://".toList := fun member => by
        rcases List.mem_append.mp member with inName | inSlashes
        · exact absurd (named '&' inName) (by decide)
        · exact absurd inSlashes (by decide)
      have ends : (name ++ "://".toList).getLast? = some '/' :=
        List.getLast?_append_of_ne_nil name (List.cons_ne_nil _ _)
      refine ⟨scheme, among, name, same, ?_⟩
      rw [← List.append_assoc]
      exact prefix_trimUrl ends noReference body
  · have kept := chars c (front.subset member)
    simpa [Html.isUrlChar, and_assoc] using kept
  · rw [whole]
    exact inside.trans (List.prefix_append _ _).isInfix

/-- Whether a segment is what it stands for. -/
def Segment.IsSound : Segment → Prop
  | .kept _ => True
  | .markup element => IsMarkup element
  | .address url => IsAddress url

theorem isSound_of_mem_segments {text : Text} :
    ∀ segment ∈ segments text, segment.IsSound := by
  induction text using segment_induction with
  | nil => exact fun segment member => nomatch member
  | kept head rest noMatch inductionHypothesis =>
    rw [segments_cons_of_zero noMatch]
    exact List.forall_mem_cons.mpr ⟨trivial, inductionHypothesis⟩
  | markup element rest isMarkup takes same inductionHypothesis =>
    rw [segments_append_of_match isMarkup.ne_nil rest takes, isMarkup.foundSegments]
    exact List.forall_mem_cons.mpr ⟨isMarkup, inductionHypothesis⟩
  | url url rest isUrl takes stops inductionHypothesis =>
    rw [segments_append_of_match isUrl.ne_nil rest takes, isUrl.foundSegments]
    exact List.forall_mem_cons.mpr
      ⟨isUrl.isAddress, List.forall_mem_cons.mpr ⟨trivial, inductionHypothesis⟩⟩

/-! ### Bare URLs -/

/-- The bare URLs that autolinking finds in a text, as they are found and not yet trimmed. -/
def bareUrls (text : Text) : List Text :=
  (Text.pieces autolinkPattern text).filterMap fun piece =>
    match piece with
    | .kept _ => none
    | .found source => if source.head? = some '<' then none else some source

theorem bareUrls_cons_of_zero {head : Char} {rest : Text}
    (noMatch : autolinkPattern (head :: rest) = 0) : bareUrls (head :: rest) = bareUrls rest := by
  rw [bareUrls, Text.pieces_cons_of_zero noMatch]
  rfl

theorem bareUrls_markup_append {element : Text} (isMarkup : IsMarkup element) {rest : Text}
    (takes : autolinkPattern (element ++ rest) = element.length) :
    bareUrls (element ++ rest) = bareUrls rest := by
  rw [bareUrls, Text.pieces_append_of_match isMarkup.ne_nil rest takes]
  exact List.filterMap_cons_none (if_pos isMarkup.head?)

theorem bareUrls_url_append {url : Text} (isUrl : IsBareUrl url) {rest : Text}
    (takes : autolinkPattern (url ++ rest) = url.length) :
    bareUrls (url ++ rest) = url :: bareUrls rest := by
  rw [bareUrls, Text.pieces_append_of_match isUrl.ne_nil rest takes]
  exact List.filterMap_cons_some (if_neg isUrl.head?_ne)

/-- What gets an anchor is what trimming leaves of the bare URLs. -/
theorem address_mem_segments_iff {text url : Text} :
    .address url ∈ segments text ↔ ∃ source ∈ bareUrls text, url = trimUrl source := by
  induction text using segment_induction with
  | nil =>
    refine ⟨fun member => (List.not_mem_nil member).elim, ?_⟩
    rintro ⟨source, member, -⟩
    exact (List.not_mem_nil member).elim
  | kept head rest noMatch inductionHypothesis =>
    rw [segments_cons_of_zero noMatch, bareUrls_cons_of_zero noMatch, ← inductionHypothesis]
    simp only [List.mem_cons, reduceCtorEq, false_or]
  | markup element rest isMarkup takes same inductionHypothesis =>
    rw [segments_append_of_match isMarkup.ne_nil rest takes, isMarkup.foundSegments,
      bareUrls_markup_append isMarkup takes, ← inductionHypothesis]
    simp only [List.cons_append, List.nil_append, List.mem_cons, reduceCtorEq, false_or]
  | url source rest isUrl takes stops inductionHypothesis =>
    rw [segments_append_of_match isUrl.ne_nil rest takes, isUrl.foundSegments,
      bareUrls_url_append isUrl takes, List.exists_mem_cons_iff, ← inductionHypothesis]
    simp only [List.cons_append, List.nil_append, List.mem_cons, Segment.address.injEq,
      reduceCtorEq, false_or]

/-! ### Taking the anchors out -/

/-- Without its tags, an anchor is the URL that it shows. -/
theorem stripTags_anchorTo {url : Text} (plain : ∀ c ∈ url, c ≠ '<') (rest : Text) :
    stripTags (anchorTo url ++ rest) = url ++ stripTags rest := by
  have noEnd : '>' ∉ 'a' :: anchorAttribute url := by
    rw [List.mem_cons, not_or]
    exact ⟨by decide, end_not_mem_anchorAttribute url⟩
  have start := stripTags_tag (List.cons_ne_nil 'a' _) noEnd
    (url ++ '<' :: '/' :: 'a' :: '>' :: rest)
  have stop := @stripTags_tag ['/', 'a'] (by decide) (by decide) rest
  rw [anchorTo_append]
  refine start.trans ?_
  rw [stripTags_append_of_plain plain]
  exact congrArg (url ++ ·) stop

/-- Taking the tags out of a text without markup that was autolinked gives the text back. -/
theorem stripTags_autolink {text : Text} (plain : '<' ∉ text) :
    stripTags (autolink text) = text := by
  induction text, plain using plain_induction with
  | nil => rfl
  | kept head rest other plain noMatch inductionHypothesis =>
    have here : ∀ c ∈ [head], c ≠ '<' := List.forall_mem_singleton.mpr other.symm
    rw [autolink_cons_of_zero noMatch]
    exact (stripTags_append_of_plain here _).trans (congrArg (head :: ·) inductionHypothesis)
  | url url rest isUrl plain takes stops inductionHypothesis =>
    have kept : ∀ c ∈ url, c ≠ '<' := fun c member => (isUrl.plain c member).1
    have linked : ∀ c ∈ trimUrl url, c ≠ '<' :=
      fun c member => kept c ((trimUrl_starts url).subset member)
    have trimmed : ∀ c ∈ url.drop (trimUrl url).length, c ≠ '<' :=
      fun c member => kept c (List.mem_of_mem_drop member)
    rw [autolink_append_of_match isUrl.ne_nil rest takes, isUrl.linkFound, List.append_assoc,
      stripTags_anchorTo linked, stripTags_append_of_plain trimmed, inductionHypothesis,
      ← List.append_assoc, trimUrl_append_drop]

/-! ### Main theorem -/

/-- Autolinking only adds anchors: the segments spell the text, and with an anchor for each URL they
spell what autolinking gives. The URLs are those of web schemes, and the markup is what a scan for
markup alone finds. Taking the tags out gives a text without markup back. -/
theorem autolink_only_adds_anchors (text : Text) :
    (segments text).flatMap Segment.source = text ∧
      (segments text).flatMap Segment.written = autolink text ∧
      (segments text).flatMap Segment.scanned = Text.pieces markupPattern text ∧
      (∀ segment ∈ segments text, segment.IsSound) ∧
      ('<' ∉ text → stripTags (autolink text) = text) :=
  ⟨flatMap_source_segments text, flatMap_written_segments text, flatMap_scanned_segments text,
    isSound_of_mem_segments, stripTags_autolink⟩

/-- In a text with a URL in brackets the URL is linked, and taking the tags out undoes it. -/
theorem autolink_in_brackets :
    '<' ∉ "See (http://a.b/c).".toList ∧
      .address "http://a.b/c".toList ∈ segments "See (http://a.b/c).".toList ∧
      stripTags (autolink "See (http://a.b/c).".toList) = "See (http://a.b/c).".toList :=
  ⟨by decide, by decide, (autolink_only_adds_anchors _).2.2.2.2 (by decide)⟩

/-- A tag around a URL is passed over. -/
example : segments "<i>http://a</i>".toList =
    [.markup "<i>".toList, .address "http://a".toList, .kept [], .markup "</i>".toList] := by
  decide

end Html

end BookMarkup
