/-
This file sums markup up for the quote around it. A quote shows its body up to the last
citation in it and the citation up to the next end of a paragraph, and drops what is
behind. So the outline of some markup says whether there is a citation in it, which group
markers a quote would keep, whether an end of a paragraph limits them, and which markers
there are in all. Outlines of neighbours can be put together.

One thing is lost on the way. When nothing but blanks stands between the start tag of a
paragraph and the citation in it, dropping this tag takes one character more, and a group
marker right in front of it is broken.
-/

import BookMarkup.Proofs.Group.Mark
import BookMarkup.Proofs.Text.Trim

namespace BookMarkup

namespace Group

/-! ### Outlines -/

/-- What a quote needs to know about the markup in it. -/
structure Outline where
  /-- Whether there is a citation. -/
  cited : Bool
  /-- The group markers up to the first end of a paragraph behind the last citation, or up to the
  first one at all if there is no citation. -/
  kept : List GroupMarker
  /-- Whether there is such an end of a paragraph. -/
  ended : Bool
  /-- All group markers. -/
  all : List GroupMarker
  deriving DecidableEq, Repr

namespace Outline

/-- The outline of no markup. -/
def empty : Outline :=
  ⟨false, [], false, []⟩

/-- The outline of markup with nothing but perhaps a citation. -/
def ofCitation (cited : Bool) : Outline :=
  ⟨cited, [], false, []⟩

/-- The outline of a marker. -/
def ofMarker (marker : Option GroupMarker) : Outline :=
  ⟨false, marker.toList, false, marker.toList⟩

/-- The outline of two pieces of markup in a row. -/
def append (first second : Outline) : Outline :=
  if second.cited then
    ⟨true, first.all ++ second.kept, second.ended, first.all ++ second.all⟩
  else
    ⟨first.cited, if first.ended then first.kept else first.kept ++ second.kept,
      first.ended || second.ended, first.all ++ second.all⟩

instance : Append Outline := ⟨append⟩

theorem append_eq (first second : Outline) :
    first ++ second = if second.cited then
      ⟨true, first.all ++ second.kept, second.ended, first.all ++ second.all⟩
    else
      ⟨first.cited, if first.ended then first.kept else first.kept ++ second.kept,
        first.ended || second.ended, first.all ++ second.all⟩ := rfl

theorem empty_append (outline : Outline) : empty ++ outline = outline := by
  obtain ⟨cited, kept, ended, all⟩ := outline
  cases cited <;> rfl

theorem append_empty (outline : Outline) : outline ++ empty = outline := by
  obtain ⟨cited, kept, ended, all⟩ := outline
  cases ended <;> simp [append_eq, empty]

theorem all_append (first second : Outline) : (first ++ second).all = first.all ++ second.all := by
  rw [append_eq]
  split <;> rfl

theorem cited_append (first second : Outline) :
    (first ++ second).cited = (first.cited || second.cited) := by
  rw [append_eq]
  cases second.cited <;> simp

/-- The outline of a quote around some markup. -/
def quote (content : Outline) : Outline :=
  if content.cited then ⟨true, content.kept, false, content.kept⟩
  else ⟨false, content.kept, true, content.all⟩

theorem all_quote_of_uncited {content : Outline} (uncited : content.cited = false) :
    content.quote.all = content.all := by
  rw [quote, uncited]
  rfl

theorem cited_quote (content : Outline) : content.quote.cited = content.cited := by
  unfold quote
  cases content.cited <;> rfl

end Outline

/-! ### Broken markers -/

/-- Whether a text ends in a marker and the start tag of a paragraph, up to blanks. -/
def endsBare (text : Text) : Bool :=
  [GroupMarker.opener, GroupMarker.closer].any fun marker =>
    (marker.html ++ "<p>".toList).isSuffixOf (Text.trimEnd text)

theorem endsBare_iff_suffix {text : Text} : endsBare text = true ↔
    ∃ marker : GroupMarker, marker.html ++ "<p>".toList <:+ Text.trimEnd text := by
  unfold endsBare
  constructor
  · intro ends
    obtain ⟨marker, -, isSuffix⟩ := List.any_eq_true.mp ends
    exact ⟨marker, List.isSuffixOf_iff_suffix.mp isSuffix⟩
  · rintro ⟨marker, isSuffix⟩
    refine List.any_eq_true.mpr ⟨marker, ?_, List.isSuffixOf_iff_suffix.mpr isSuffix⟩
    cases marker <;> simp

/-- A text that ends in a start tag is trimmed. -/
theorem trimEnd_append_start (front : Text) :
    Text.trimEnd (front ++ "<p>".toList) = front ++ "<p>".toList := by
  have ends : front ++ "<p>".toList = front ++ "<p".toList ++ ['>'] := by
    rw [List.append_assoc]
    rfl
  rw [ends, Text.trimEnd_concat (by decide)]

theorem endsBare_iff {text : Text} :
    endsBare text = true ↔ ∃ (marker : GroupMarker) (front blanks : Text),
      (∀ c ∈ blanks, isBlank c = true) ∧
        text = front ++ (marker.html ++ "<p>".toList) ++ blanks := by
  rw [endsBare_iff_suffix]
  constructor
  · rintro ⟨marker, front, equal⟩
    obtain ⟨blanks, blank, whole⟩ := Text.exists_trimEnd_append text
    exact ⟨marker, front, blanks, blank, by rw [equal]; exact whole⟩
  · rintro ⟨marker, front, blanks, blank, rfl⟩
    refine ⟨marker, front, ?_⟩
    rw [Text.trimEnd_append_blanks _ blank, ← List.append_assoc, trimEnd_append_start]

theorem not_mem_tail_marker (marker : GroupMarker) :
    '<' ∉ marker.html.tail ∧ '\n' ∉ marker.html.tail := by
  cases marker <;> decide

theorem marker_eq_cons (marker : GroupMarker) : marker.html = '<' :: marker.html.tail := by
  cases marker <;> rfl

theorem mem_of_startsBlock {text : Text} (starts : StartsBlock text) (nonempty : text ≠ []) :
    '<' ∈ text := by
  rcases starts with rfl | tag | ⟨rest, rfl⟩
  · exact absurd rfl nonempty
  · obtain ⟨rest, rfl⟩ := List.head?_eq_some_iff.mp tag
    exact List.mem_cons_self
  · exact List.mem_cons_of_mem _ List.mem_cons_self

/-- A text ends in a marker and a start tag if the part behind some other part does, unless the
marker starts in the other part. -/
theorem endsBare_append {left right : Text}
    (other : ∀ (marker : GroupMarker) (front overlap blanks : Text),
      (∀ c ∈ blanks, isBlank c = true) → left = front ++ '<' :: overlap →
        overlap ++ right ≠ marker.html.tail ++ ("<p>".toList ++ blanks)) :
    endsBare (left ++ right) = endsBare right := by
  rw [Bool.eq_iff_iff, endsBare_iff, endsBare_iff]
  constructor
  · rintro ⟨marker, front, blanks, blank, equal⟩
    rw [List.append_assoc] at equal
    rcases List.append_eq_append_iff.mp equal with ⟨more, -, inRight⟩ | ⟨overlap, inLeft, rest⟩
    · exact ⟨marker, more, blanks, blank, by rw [inRight, ← List.append_assoc]⟩
    · cases overlap with
      | nil => exact ⟨marker, [], blanks, blank, rest.symm⟩
      | cons first overlap =>
        rw [marker_eq_cons, List.append_assoc] at rest
        obtain ⟨rfl, later⟩ := List.cons.inj rest
        exact absurd later.symm (other marker front overlap blanks blank inLeft)
  · rintro ⟨marker, front, blanks, blank, rfl⟩
    exact ⟨marker, left ++ front, blanks, blank, by simp only [List.append_assoc]⟩

/-- A block behind a text ends in a marker and a start tag on its own or not at all, unless the
marker belongs to the text. -/
theorem endsBare_append_of_startsBlock {left right : Text} (starts : StartsBlock right)
    (nonempty : right ≠ [])
    (noMarker : "<p>".toList <+: right → ∀ marker : GroupMarker, ¬ marker.html <:+ left) :
    endsBare (left ++ right) = endsBare right := by
  refine endsBare_append fun marker front overlap blanks blank inLeft later => ?_
  -- The start tag of a paragraph that begins the block would have its marker in the text.
  have atStart (whole : overlap = marker.html.tail) : right ≠ "<p>".toList ++ blanks := by
    intro tag
    refine noMarker ⟨blanks, tag.symm⟩ marker ⟨front, ?_⟩
    rw [inLeft, whole, ← marker_eq_cons]
  rcases List.append_eq_append_iff.mp later with ⟨more, whole, inRight⟩ | ⟨more, whole, inTag⟩
  · cases more with
    | nil => exact atStart ((List.append_nil _).symm.trans whole.symm) inRight
    | cons letter more =>
      have inTail : letter ∈ marker.html.tail := by
        rw [whole]
        exact List.mem_append_right _ List.mem_cons_self
      have inHead : letter ∈ right.head? := by
        rw [inRight]
        rfl
      rcases head?_of_startsBlock starts letter inHead with rfl | rfl
      · exact (not_mem_tail_marker marker).1 inTail
      · exact (not_mem_tail_marker marker).2 inTail
  · cases more with
    | nil => exact atStart (whole.trans (List.append_nil _)) inTag.symm
    | cons letter more =>
      have tag : '<' :: ("p>".toList ++ blanks) = letter :: (more ++ right) := inTag
      have hasTag : '<' ∈ "p>".toList ++ blanks := by
        rw [(List.cons.inj tag).2]
        exact List.mem_append_right _ (mem_of_startsBlock starts nonempty)
      rcases List.mem_append.mp hasTag with inStart | inBlanks
      · exact absurd inStart (by decide)
      · exact absurd (blank '<' inBlanks) (by decide)

theorem marks_ne_nil_of_endsBare {text : Text} (bare : endsBare text = true) :
    marks text ≠ [] := by
  obtain ⟨marker, front, blanks, -, rfl⟩ := endsBare_iff.mp bare
  intro absent
  refine marks_eq_nil_iff.mp absent marker ⟨front, "<p>".toList ++ blanks, ?_⟩
  simp only [List.append_assoc]

/-- The group markers of a body that are left when the tag at its end is dropped. -/
def keptMarks (body : Text) : List GroupMarker :=
  if endsBare body then (marks body).dropLast else marks body

/-! ### The outline of some markup -/

/-- The outline of some markup. -/
def outlineOf (html : Text) : Outline :=
  match Text.breakOnLast Quote.citationMarker html with
  | some (body, citation) =>
    ⟨true, keptMarks body ++ marks (Quote.beforeParagraphEnd citation), hasStop citation,
      marks html⟩
  | none => ⟨false, marks (Quote.beforeParagraphEnd html), hasStop html, marks html⟩

/-- Whether a citation starts in some markup. -/
def cites (html : Text) : Bool :=
  Text.occursIn Quote.citationMarker html

theorem citationMarker_ne_nil : Quote.citationMarker ≠ [] := List.cons_ne_nil _ _

theorem cites_iff {html : Text} : cites html = true ↔ Quote.citationMarker <:+: html :=
  Text.occursIn_iff citationMarker_ne_nil

theorem cites_eq_false_iff {html : Text} :
    cites html = false ↔ Text.breakOnLast Quote.citationMarker html = none := by
  rw [← Bool.not_eq_true, cites_iff, Text.breakOnLast_eq_none_iff citationMarker_ne_nil]

theorem outlineOf_all (html : Text) : (outlineOf html).all = marks html := by
  unfold outlineOf
  split <;> rfl

theorem outlineOf_of_breakOnLast {html body citation : Text}
    (found : Text.breakOnLast Quote.citationMarker html = some (body, citation)) :
    outlineOf html = ⟨true, keptMarks body ++ marks (Quote.beforeParagraphEnd citation),
      hasStop citation, marks html⟩ := by
  rw [outlineOf, found]

theorem outlineOf_of_uncited {html : Text}
    (absent : Text.breakOnLast Quote.citationMarker html = none) :
    outlineOf html = ⟨false, marks (Quote.beforeParagraphEnd html), hasStop html, marks html⟩ := by
  rw [outlineOf, absent]

/-- Markup in which no tag of a group or a paragraph starts has but its citation. -/
theorem outlineOf_tame {html : Text} (tame : isTame html = true) :
    outlineOf html = Outline.ofCitation (cites html) := by
  have noMarks {part : Text} (inside : part <:+: html) : marks part = [] :=
    marks_eq_nil_iff.mpr fun marker within =>
      not_infix_of_isTame (isBlockTag_marker marker) tame (within.trans inside)
  have noStop {part : Text} (inside : part <:+: html) : hasStop part = false :=
    hasStop_eq_false_iff.mpr fun within =>
      not_infix_of_isTame isBlockTag_stop tame (within.trans inside)
  have before {part : Text} (inside : part <:+: html) : Quote.beforeParagraphEnd part <:+: html :=
    (beforeParagraphEnd_starts part).isInfix.trans inside
  have self : html <:+: html := List.infix_refl html
  cases broken : Text.breakOnLast Quote.citationMarker html with
  | none =>
    rw [outlineOf_of_uncited broken, noMarks self, noMarks (before self), noStop self,
      cites_eq_false_iff.mpr broken]
    rfl
  | some parts =>
    obtain ⟨body, citation⟩ := parts
    have spelled := Text.breakOnLast_spells broken
    have inBody : body <:+: html :=
      ⟨[], Quote.citationMarker ++ citation, by rw [spelled]; simp only [List.append_assoc]; rfl⟩
    have inCitation : citation <:+: html :=
      ⟨body ++ Quote.citationMarker, [], by rw [spelled, List.append_nil]⟩
    have cited : cites html = true := cites_iff.mpr ⟨body, citation, spelled.symm⟩
    have kept : keptMarks body = [] := by
      rw [keptMarks, noMarks inBody]
      split <;> rfl
    rw [outlineOf_of_breakOnLast broken, kept, noMarks (before inCitation), noStop inCitation,
      noMarks self, cited]
    rfl

theorem outlineOf_markerHtml (marker : Option GroupMarker) :
    outlineOf (markerHtml marker) = Outline.ofMarker marker := by
  cases marker with
  | none => rfl
  | some marker => cases marker <;> decide

/-! ### Neighbours -/

/-- Whether some markup can stand behind some other without completing or breaking a marker. -/
def Joint (left right : Text) : Prop :=
  StartsBlock right ∧ ("<p>".toList <+: right → ∀ marker : GroupMarker, ¬ marker.html <:+ left)

theorem joint_of_second {left right rest : Text} {second : Char}
    (spelled : right = '<' :: second :: rest) (other : second ≠ 'p') : Joint left right := by
  subst spelled
  refine ⟨Or.inr (Or.inl rfl), fun tag => absurd ?_ other⟩
  obtain ⟨behind, equal⟩ := tag
  exact (List.cons.inj (List.cons.inj equal).2).1.symm

theorem startsBlock_before_citation {body citation : Text}
    (starts : StartsBlock (body ++ Quote.citationMarker ++ citation)) :
    StartsBlock body ∧ body ≠ [] := by
  rw [List.append_assoc] at starts
  rcases starts with empty | tag | ⟨rest, line⟩
  · exact absurd empty (by simp [citationMarker_ne_nil])
  · cases body with
    | nil =>
      have first : '\n' = '<' := Option.some.inj tag
      exact absurd first (by decide)
    | cons head tail => exact ⟨Or.inr (Or.inl tag), List.cons_ne_nil _ _⟩
  · cases body with
    | nil =>
      have second := (List.cons.inj (List.cons.inj line).2).1
      exact absurd second (by decide)
    | cons head tail =>
      obtain ⟨rfl, later⟩ := List.cons.inj line
      cases tail with
      | nil => exact absurd (List.cons.inj later).1 (by decide)
      | cons second tail =>
        obtain ⟨rfl, -⟩ := List.cons.inj later
        exact ⟨Or.inr (Or.inr ⟨tail, rfl⟩), List.cons_ne_nil _ _⟩

theorem keptMarks_append {left body : Text} (nonempty : body ≠ []) (joint : Joint left body) :
    keptMarks (left ++ body) = marks left ++ keptMarks body := by
  rw [keptMarks, keptMarks, marks_append_of_head? (head?_of_startsBlock joint.1),
    endsBare_append_of_startsBlock joint.1 nonempty joint.2]
  split
  · next bare => exact List.dropLast_append_of_ne_nil (marks_ne_nil_of_endsBare bare)
  · rfl

theorem apart_stop_of_startsBlock {right : Text} (starts : StartsBlock right) (left : Text) :
    Text.Apart stop left right := by
  refine Or.inr fun first inHead => ?_
  rcases head?_of_startsBlock starts first inHead with rfl | rfl <;> decide

theorem apart_citation_of_startsBlock {right : Text} (starts : StartsBlock right) (left : Text) :
    Text.Apart Quote.citationMarker left right := by
  refine Or.inr fun first inHead => ?_
  rcases head?_of_startsBlock starts first inHead with rfl | rfl <;> decide

theorem marks_beforeParagraphEnd_append {left right : Text} (starts : StartsBlock right) :
    marks (Quote.beforeParagraphEnd (left ++ right)) =
      if hasStop left then marks (Quote.beforeParagraphEnd left)
      else marks (Quote.beforeParagraphEnd left) ++ marks (Quote.beforeParagraphEnd right) := by
  split
  · next ends => rw [beforeParagraphEnd_of_hasStop ends]
  · next noEnd =>
    rw [Bool.not_eq_true] at noEnd
    rw [beforeParagraphEnd_append (apart_stop_of_startsBlock starts left) noEnd,
      beforeParagraphEnd_of_not_hasStop noEnd]
    refine marks_append_of_head? fun first inHead => head?_of_startsBlock starts first ?_
    obtain ⟨rest, whole⟩ := beforeParagraphEnd_starts right
    rw [← whole, List.head?_append, Option.mem_def.mp inHead]
    rfl

/-- Outlines of neighbours are put together like their markup. -/
theorem outlineOf_append {left right : Text} (joint : Joint left right) :
    outlineOf (left ++ right) = outlineOf left ++ outlineOf right := by
  have allMarks : marks (left ++ right) = marks left ++ marks right :=
    marks_append_of_head? (head?_of_startsBlock joint.1)
  rw [Outline.append_eq, outlineOf_all, outlineOf_all]
  cases inRight : Text.breakOnLast Quote.citationMarker right with
  | some parts =>
    obtain ⟨body, citation⟩ := parts
    have spelled := Text.breakOnLast_spells inRight
    obtain ⟨starts, nonempty⟩ := startsBlock_before_citation (spelled ▸ joint.1)
    have jointBody : Joint left body := ⟨starts, fun tag => joint.2 (tag.trans
      ⟨Quote.citationMarker ++ citation, by rw [spelled, List.append_assoc]⟩)⟩
    rw [outlineOf_of_breakOnLast (Text.breakOnLast_append_of_some left inRight),
      outlineOf_of_breakOnLast inRight, keptMarks_append nonempty jointBody, allMarks,
      List.append_assoc]
    rfl
  | none =>
    have broken := Text.breakOnLast_append_of_none citationMarker_ne_nil
      (apart_citation_of_startsBlock joint.1 left) inRight
    rw [outlineOf_of_uncited inRight]
    cases inLeft : Text.breakOnLast Quote.citationMarker left with
    | some parts =>
      obtain ⟨body, citation⟩ := parts
      rw [inLeft] at broken
      rw [outlineOf_of_breakOnLast broken, outlineOf_of_breakOnLast inLeft, allMarks,
        marks_beforeParagraphEnd_append joint.1,
        hasStop_append (apart_stop_of_startsBlock joint.1 citation)]
      simp only [Bool.false_eq_true, if_false]
      congr 1
      split
      · rfl
      · rw [List.append_assoc]
    | none =>
      rw [inLeft] at broken
      rw [outlineOf_of_uncited broken, outlineOf_of_uncited inLeft, allMarks,
        marks_beforeParagraphEnd_append joint.1,
        hasStop_append (apart_stop_of_startsBlock joint.1 left)]
      rfl

end Group

end BookMarkup
