/-
This file lists the children of a quote for which its paragraph tags are studied, and
renders them with the hooks of one renderer. Whatever the state, what is rendered is a row
of markups with a group marker in front of some. A paragraph that is no note is an element
with a start tag and an end tag; all other markup, and each marker, holds neither. So the
tags of a row are balanced, and only its ends tell where it can lose one.
-/

import BookMarkup.Proofs.Group.Document
import BookMarkup.Proofs.Quote.Citation
import BookMarkup.Proofs.Quote.Unwrap

namespace BookMarkup

namespace Quote

open BookMarkup.Group

/-! ### Children -/

/-- A child of a quote. -/
inductive Child where
  | paragraph (text : Text)
  | rule
  /-- A list of items, of which each holds a text. -/
  | list (ordered : Bool) (start : Option Int) (items : List Text)
  deriving DecidableEq, Repr

namespace Child

/-- The texts in a child. -/
def texts : Child → List Text
  | .paragraph text => [text]
  | .rule => []
  | .list _ _ items => items

/-- Whether a citation starts in a child. -/
def cited (child : Child) : Bool :=
  child.texts.any cites

/-- Whether a child becomes a paragraph element, which a note does not. -/
def isElement : Child → Bool
  | .paragraph text => !Footnote.isNote text
  | _ => false

/-- The markup of a child behind its group marker. -/
def markup (xhtml : Bool) : Child → Text
  | .paragraph text => Hook.paragraphMarkup text
  | .rule => "<hr".toList ++ Hook.voidEnd xhtml ++ ">\n".toList
  | .list ordered start items =>
    ['<'] ++ listName ordered ++ Hook.startAttribute ordered start ++ ">\n".toList ++
      (items.flatMap fun text => "<li>".toList ++ text ++ "</li>\n".toList) ++
      "</".toList ++ listName ordered ++ ">\n".toList

/-- Renders the items of a list. -/
def renderItems : List Text → RenderState → Text × RenderState
  | [], state => ([], state)
  | text :: others, state =>
    let (item, between) := Hook.listItem state text
    let (rest, after) := renderItems others between
    (item ++ rest, after)

/-- Renders a child. -/
def render (options : Options) : Child → RenderState → Text × RenderState
  | .paragraph text, state => Hook.paragraph state text
  | .rule, state => Hook.rule state options.xhtml
  | .list ordered start items, state =>
    let (content, after) := renderItems items state
    Hook.list after content ordered start

end Child

/-- Renders children one after the other. -/
def renderChildren (options : Options) : List Child → RenderState → Text × RenderState
  | [], state => ([], state)
  | child :: others, state =>
    let (markup, between) := child.render options state
    let (rest, after) := renderChildren options others between
    (markup ++ rest, after)

/-- Renders a quote of some children. -/
def ofChildren (options : Options) (children : List Child) (state : RenderState) : Text :=
  let (content, after) := renderChildren options children state
  (Hook.quote after content).1

/-! ### Markup of children -/

/-- Whether no text in some children holds the start of a tag. -/
def ArePlain (children : List Child) : Prop :=
  ∀ child ∈ children, ∀ text ∈ child.texts, '<' ∉ text

theorem markup_of_isElement {child : Child} (plain : ∀ text ∈ child.texts, '<' ∉ text)
    (element : child.isElement = true) (xhtml : Bool) :
    ∃ text, child = .paragraph text ∧ '<' ∉ text ∧
      child.markup xhtml = "<p>".toList ++ (text ++ (stop ++ ['\n'])) := by
  cases child with
  | paragraph text =>
    have plainText := plain text (List.mem_singleton.mpr rfl)
    refine ⟨text, rfl, plainText, paragraphMarkup_of_plain plainText ?_⟩
    simpa [Child.isElement] using element
  | rule => cases element
  | list ordered start items => cases element

/-- What is known about the markup of a child that is no paragraph element. -/
structure IsOther (markup : Text) (cited : Bool) : Prop where
  starts : markup.head? = some '<'
  tame : isTame markup = true
  ends : markup.getLast? = some '\n'
  cites : Group.cites markup = cited

/-- Text between two tags has the citation that it has alone. -/
theorem cites_wrap {front behind inner : Text} (wraps : Wraps front behind)
    (apart : front.getLast? ≠ some '\n' ∨ inner.head? ≠ some '\u2014') :
    cites (front ++ (inner ++ behind)) = cites inner := by
  obtain ⟨rest, spelled⟩ := wraps.endTag
  have stops : behind.head? ≠ some '\u2014' := by
    rw [spelled]
    exact fun dash => absurd (Option.some.inj dash) (by decide)
  have within : cites (inner ++ behind) = cites inner := by
    rw [cites_append_of_head? stops, wraps.uncitedEnd, Bool.or_false]
  have around : cites (front ++ (inner ++ behind)) = (cites front || cites (inner ++ behind)) := by
    rcases apart with ends | starts
    · exact cites_append_of_getLast? ends
    · refine cites_append_of_head? ?_
      cases inner with
      | nil => exact stops
      | cons head rest => exact starts
  rw [around, wraps.uncited, within, Bool.false_or]

theorem isOther_wrap {front behind inner : Text} (wraps : Wraps front behind)
    (tame : isTame inner = true)
    (apart : front.getLast? ≠ some '\n' ∨ inner.head? ≠ some '\u2014') :
    IsOther (front ++ (inner ++ behind)) (cites inner) where
  starts := by
    obtain ⟨second, rest, spelled, -⟩ := wraps.starts
    rw [spelled]
    rfl
  tame := isTame_append wraps.tame (isTame_append tame wraps.tameEnd)
  ends := getLast?_of_endsBlock (endsBlock_append _ (endsBlock_append _ wraps.ends))
  cites := cites_wrap wraps apart

/-- What is known about markups in a row. -/
theorem items_spell {items : List Text} (plain : ∀ text ∈ items, '<' ∉ text) :
    (∀ first ∈ (items.flatMap fun text => "<li>".toList ++ text ++ "</li>\n".toList).head?,
      first = '<') ∧
    isTame (items.flatMap fun text => "<li>".toList ++ text ++ "</li>\n".toList) = true ∧
    cites (items.flatMap fun text => "<li>".toList ++ text ++ "</li>\n".toList) =
      items.any cites := by
  induction items with
  | nil => exact ⟨fun first inHead => (Option.not_mem_none first inHead).elim, rfl, rfl⟩
  | cons text others inductionHypothesis =>
    obtain ⟨here, later⟩ := List.forall_mem_cons.mp plain
    obtain ⟨starts, tame, same⟩ := inductionHypothesis later
    have item := isOther_wrap wraps_listItem (isTame_of_plain here) (Or.inl (by decide))
    rw [← List.append_assoc] at item
    have noDash : (others.flatMap fun text =>
        "<li>".toList ++ text ++ "</li>\n".toList).head? ≠ some '\u2014' :=
      fun dash => absurd (starts _ dash) (by decide)
    rw [List.flatMap_cons]
    refine ⟨?_, isTame_append item.tame tame, ?_⟩
    · rw [List.head?_append, item.starts]
      rintro first ⟨⟩
      rfl
    · rw [cites_append_of_head? noDash, item.cites, same, List.any_cons]

theorem isOther_markup {child : Child} (plain : ∀ text ∈ child.texts, '<' ∉ text)
    (other : child.isElement = false) (xhtml : Bool) :
    IsOther (child.markup xhtml) child.cited := by
  cases child with
  | paragraph text =>
    have plainText := plain text (List.mem_singleton.mpr rfl)
    have note : Footnote.isNote text = true := by simpa [Child.isElement] using other
    obtain ⟨tame, same⟩ := isTame_and_cites_note plainText note
    obtain ⟨⟨second, rest, spelled, -⟩, ends⟩ := paragraphMarkup_spells plainText
    refine ⟨congrArg List.head? spelled, tame, getLast?_of_endsBlock ends, ?_⟩
    exact same.trans (Bool.or_false _).symm
  | rule => cases xhtml <;> exact ⟨rfl, by decide, by decide, by decide⟩
  | list ordered start items =>
    obtain ⟨starts, tame, same⟩ := items_spell plain
    have wrapped := isOther_wrap (wraps_list ordered start) tame
      (Or.inr fun dash => absurd (starts _ dash) (by decide))
    rw [same] at wrapped
    simp only [List.append_assoc] at wrapped
    unfold Child.markup
    simp only [List.append_assoc]
    exact wrapped

/-- What is known about the markup of every child. -/
theorem markup_spells {child : Child} (plain : ∀ text ∈ child.texts, '<' ∉ text) (xhtml : Bool) :
    (child.markup xhtml).head? = some '<' ∧ (child.markup xhtml).getLast? = some '\n' ∧
      cites (child.markup xhtml) = child.cited ∧
      tags (child.markup xhtml) = if child.isElement then [.start, .stop] else [] := by
  cases element : child.isElement with
  | false =>
    obtain ⟨starts, tame, ends, same⟩ := isOther_markup plain element xhtml
    exact ⟨starts, ends, same, tags_of_isTame tame⟩
  | true =>
    obtain ⟨text, rfl, plainText, spelled⟩ := markup_of_isElement plain element xhtml
    have last : cites (stop ++ ['\n']) = false := by decide
    have one : tags (stop ++ ['\n']) = [.stop] := by decide
    have first : tags "<p>".toList = [.start] := by decide
    have ends := getLast?_of_endsBlock (paragraphMarkup_spells plainText).2
    refine ⟨congrArg List.head? spelled, ends, ?_, ?_⟩ <;> rw [spelled]
    · rw [cites_oneLine_append (by decide), cites_append_of_head? (by decide), last]
      rfl
    · rw [tags_append_of_getLast? (by decide), first, tags_plain_append plainText, one]
      rfl

/-! ### Rows -/

/-- Whether some markup is a row of complete elements, perhaps with a group marker at its end, that
starts with a paragraph element or not. -/
structure IsRow (html : Text) (opens : Bool) : Prop where
  starts : ∀ first ∈ html.head?, first = '<'
  opens_iff : "<p>".toList <+: html ↔ opens = true
  closed : ∀ height, walk height (tags html) = some height
  unfinished : IsUnfinished html

/-- A start tag stands in front of text that starts with another tag. -/
theorem start_prefix_append_iff {left right : Text} (nonempty : left ≠ [])
    (starts : ∀ first ∈ right.head?, first = '<') :
    "<p>".toList <+: left ++ right ↔ "<p>".toList <+: left := by
  refine Text.prefix_append_iff_of_apart nonempty (Or.inr fun first inHead => ?_)
  rw [starts first inHead]
  decide

theorem isRow_nil : IsRow [] false where
  starts first inHead := nomatch inHead
  opens_iff := by decide
  closed _ := rfl
  unfinished := isUnfinished_of_getLast? fun last inLast => nomatch inLast

/-- Markup that starts with a tag and holds none of a paragraph changes nothing behind a row. -/
theorem IsRow.append {html : Text} {opens : Bool} (row : IsRow html opens) {part : Text}
    (starts : part.head? = some '<') (quiet : tags part = []) : IsRow (html ++ part) opens := by
  have head : ∀ first ∈ part.head?, first = '<' := by
    rw [starts]
    rintro first ⟨⟩
    rfl
  refine ⟨?_, ?_, ?_, isUnfinished_append starts quiet html⟩
  · cases html with
    | nil => exact head
    | cons first rest => exact row.starts
  · rw [← row.opens_iff]
    cases html with
    | nil =>
      have absent := tags_eq_nil_iff.mp quiet .start
      exact iff_of_false (fun tag => absent tag.isInfix) (by decide)
    | cons first rest => exact start_prefix_append_iff (List.cons_ne_nil _ _) head
  · rw [tags_append_of_head? fun first inHead => Or.inl (head first inHead), quiet, List.append_nil]
    exact row.closed

theorem markerHtml_spells (marker : Option GroupMarker) :
    (∀ first ∈ (markerHtml marker).head?, first = '<') ∧ '\n' ∉ markerHtml marker ∧
      tags (markerHtml marker) = [] := by
  rcases marker with - | ⟨- | -⟩ <;> decide

/-- A marker behind a row changes nothing. -/
theorem IsRow.marker {html : Text} {opens : Bool} (row : IsRow html opens)
    (marker : Option GroupMarker) : IsRow (html ++ markerHtml marker) opens := by
  obtain ⟨-, -, quiet⟩ := markerHtml_spells marker
  cases marker with
  | none => exact (List.append_nil html).symm ▸ row
  | some marker => exact row.append (by cases marker <;> rfl) quiet

/-- A child with the group marker in front of it. -/
structure Piece where
  marker : Option GroupMarker
  child : Child

/-- The markup of a child with its marker. -/
def Piece.html (xhtml : Bool) (piece : Piece) : Text :=
  markerHtml piece.marker ++ piece.child.markup xhtml

/-- The markup of children with their markers. -/
def rowHtml (xhtml : Bool) (pieces : List Piece) : Text :=
  pieces.flatMap (Piece.html xhtml)

@[simp]
theorem rowHtml_nil (xhtml : Bool) : rowHtml xhtml [] = [] := rfl

@[simp]
theorem rowHtml_cons (xhtml : Bool) (piece : Piece) (others : List Piece) :
    rowHtml xhtml (piece :: others) = piece.html xhtml ++ rowHtml xhtml others := rfl

@[simp]
theorem rowHtml_append (xhtml : Bool) (front behind : List Piece) :
    rowHtml xhtml (front ++ behind) = rowHtml xhtml front ++ rowHtml xhtml behind :=
  List.flatMap_append

/-- Whether the first of some children becomes a paragraph element. -/
def startsElement (children : List Child) : Bool :=
  children.head?.any Child.isElement

/-- Whether the last of some children becomes a paragraph element. -/
def endsElement (children : List Child) : Bool :=
  children.getLast?.any Child.isElement

/-- Whether there is no marker in front of a paragraph element at the start. -/
def StartsBare (pieces : List Piece) : Prop :=
  ∀ first ∈ pieces.head?, first.child.isElement = true → first.marker = none

theorem html_spells {piece : Piece} (plain : ∀ text ∈ piece.child.texts, '<' ∉ text)
    (xhtml : Bool) :
    (piece.html xhtml).head? = some '<' ∧ (piece.html xhtml).getLast? = some '\n' ∧
      cites (piece.html xhtml) = piece.child.cited ∧
      tags (piece.html xhtml) = if piece.child.isElement then [.start, .stop] else [] := by
  obtain ⟨starts, ends, same, read⟩ := markup_spells plain xhtml
  obtain ⟨tagFirst, oneLine, quiet⟩ := markerHtml_spells piece.marker
  have nonempty : piece.child.markup xhtml ≠ [] := by
    intro empty
    rw [empty] at starts
    cases starts
  refine ⟨?_, ?_, ?_, ?_⟩
  · rw [Piece.html, List.head?_append, starts]
    cases first : (markerHtml piece.marker).head? with
    | none => rfl
    | some c => rw [tagFirst c first, Option.some_or]
  · exact (List.getLast?_append_of_ne_nil _ nonempty).trans ends
  · rw [Piece.html, cites_oneLine_append oneLine, same]
  · have head : ∀ first ∈ (piece.child.markup xhtml).head?, first = '<' ∨ first = '\n' := by
      rw [starts]
      rintro first ⟨⟩
      exact Or.inl rfl
    rw [Piece.html, tags_append_of_head? head, quiet, List.nil_append, read]

section Pieces

variable {pieces : List Piece}
  (plain : ∀ piece ∈ pieces, ∀ text ∈ piece.child.texts, '<' ∉ text) (xhtml : Bool)

include plain

theorem rowHtml_spells :
    (∀ first ∈ (rowHtml xhtml pieces).head?, first = '<') ∧
      (∀ last ∈ (rowHtml xhtml pieces).getLast?, last = '\n') ∧
      cites (rowHtml xhtml pieces) = pieces.any (·.child.cited) ∧
      ∀ height, walk height (tags (rowHtml xhtml pieces)) = some height := by
  induction pieces with
  | nil =>
    exact ⟨fun first inHead => (Option.not_mem_none first inHead).elim,
      fun last inLast => (Option.not_mem_none last inLast).elim, rfl, fun height => rfl⟩
  | cons piece others inductionHypothesis =>
    obtain ⟨here, later⟩ := List.forall_mem_cons.mp plain
    obtain ⟨starts, ends, same, read⟩ := html_spells here xhtml
    obtain ⟨restStarts, restEnds, restSame, restWalk⟩ := inductionHypothesis later
    have head : ∀ first ∈ (rowHtml xhtml others).head?, first = '<' ∨ first = '\n' :=
      fun first inHead => Or.inl (restStarts first inHead)
    have noDash : (rowHtml xhtml others).head? ≠ some '\u2014' :=
      fun dash => absurd (restStarts _ dash) (by decide)
    rw [rowHtml_cons]
    refine ⟨?_, ?_, ?_, fun height => ?_⟩
    · rw [List.head?_append, starts]
      rintro first ⟨⟩
      rfl
    · rw [List.getLast?_append, ends]
      cases last : (rowHtml xhtml others).getLast? with
      | none => rintro _ ⟨⟩; rfl
      | some c => rintro _ ⟨⟩; exact restEnds c last
    · rw [cites_append_of_head? noDash, same, restSame, List.any_cons]
    · rw [tags_append_of_head? head, walk_append, read]
      split <;> exact restWalk height

/-- The markup of children is a row. -/
theorem isRow_rowHtml (bare : StartsBare pieces) :
    IsRow (rowHtml xhtml pieces) (startsElement (pieces.map Piece.child)) := by
  obtain ⟨starts, ends, -, closed⟩ := rowHtml_spells plain xhtml
  refine ⟨starts, ?_, closed, isUnfinished_of_getLast? fun last inLast => ?_⟩
  · cases pieces with
    | nil => exact isRow_nil.opens_iff
    | cons piece others =>
      obtain ⟨here, later⟩ := List.forall_mem_cons.mp plain
      obtain ⟨restStarts, -⟩ := rowHtml_spells later xhtml
      have nonempty : piece.html xhtml ≠ [] := by
        intro empty
        have first := (html_spells here xhtml).1
        rw [empty] at first
        cases first
      refine (start_prefix_append_iff nonempty restStarts).trans ?_
      cases element : piece.child.isElement with
      | true =>
        obtain ⟨text, -, -, spelled⟩ := markup_of_isElement here element xhtml
        have noMarker := bare piece rfl element
        rw [Piece.html, noMarker, spelled]
        exact iff_of_true (List.prefix_append _ _) element
      | false =>
        have quiet := (html_spells here xhtml).2.2.2
        rw [element] at quiet
        refine iff_of_false (fun tag => tags_eq_nil_iff.mp quiet .start tag.isInfix) ?_
        exact Bool.eq_false_iff.mp element
  · rw [ends last inLast]
    decide

end Pieces

/-! ### What is rendered -/

theorem renderItems_fst (items : List Text) (state : RenderState) :
    (Child.renderItems items state).1 =
      items.flatMap fun text => "<li>".toList ++ text ++ "</li>\n".toList := by
  induction items generalizing state with
  | nil => rfl
  | cons text others inductionHypothesis =>
    have item : (Hook.listItem state text).1 = "<li>".toList ++ text ++ "</li>\n".toList := by
      rw [Hook.listItem, Hook.emit, RenderState.enter_of_not_isBlock state .listItem none rfl]
      rfl
    rw [List.flatMap_cons, ← item, ← inductionHypothesis (Hook.listItem state text).2]
    rfl

theorem render_spells (options : Options) (child : Child) (state : RenderState) :
    ∃ marker, (child.render options state).1 = (Piece.mk marker child).html options.xhtml ∧
      (child.isElement = true → marker ≠ some .closer) := by
  cases child with
  | paragraph text =>
    refine ⟨state.markerBefore .paragraph, rfl, fun _ => ?_⟩
    rw [RenderState.markerBefore, if_pos rfl]
    split
    · exact (Option.some_ne_none _).symm
    · decide
  | rule => exact ⟨state.markerBefore .rule, rfl, Bool.noConfusion⟩
  | list ordered start items =>
    have content := renderItems_fst items state
    refine ⟨(Child.renderItems items state).2.markerBefore .list, ?_, Bool.noConfusion⟩
    show (Hook.list _ (Child.renderItems items state).1 ordered start).1 = _
    rw [content]
    rfl

/-- What is rendered of children is their markup, with a marker in front of some; no paragraph has
an end tag of a group in front. -/
theorem renderChildren_spells (options : Options) (children : List Child) (state : RenderState) :
    ∃ pieces : List Piece, pieces.map Piece.child = children ∧
      (∀ piece ∈ pieces, piece.child.isElement = true → piece.marker ≠ some .closer) ∧
      (renderChildren options children state).1 = rowHtml options.xhtml pieces := by
  induction children generalizing state with
  | nil => exact ⟨[], rfl, fun piece member => (List.not_mem_nil member).elim, rfl⟩
  | cons child others inductionHypothesis =>
    obtain ⟨marker, first, noCloser⟩ := render_spells options child state
    obtain ⟨pieces, rfl, later, rest⟩ := inductionHypothesis (child.render options state).2
    refine ⟨⟨marker, child⟩ :: pieces, rfl, List.forall_mem_cons.mpr ⟨noCloser, later⟩, ?_⟩
    exact congrArg₂ (· ++ ·) first rest

/-- A row with a group marker at its front starts with the start tag of a group only there. -/
theorem not_opener_rowHtml {pieces : List Piece}
    (plain : ∀ piece ∈ pieces, ∀ text ∈ piece.child.texts, '<' ∉ text) (xhtml : Bool)
    (noOpener : ∀ first ∈ pieces.head?, first.marker ≠ some .opener) :
    ¬ GroupMarker.opener.html <+: rowHtml xhtml pieces := by
  cases pieces with
  | nil => exact fun opener => absurd (List.prefix_nil.mp opener) (by decide)
  | cons piece others =>
    obtain ⟨here, -⟩ := List.forall_mem_cons.mp plain
    obtain ⟨marker, child⟩ := piece
    have whole : rowHtml xhtml (⟨marker, child⟩ :: others) =
        markerHtml marker ++ (child.markup xhtml ++ rowHtml xhtml others) :=
      List.append_assoc _ _ _
    rw [whole]
    rcases marker with - | ⟨- | -⟩
    · cases element : child.isElement with
      | true =>
        obtain ⟨text, -, -, spelled⟩ := markup_of_isElement here element xhtml
        rw [spelled]
        exact fun opener =>
          absurd (List.cons_prefix_cons.mp (List.cons_prefix_cons.mp opener).2).1 (by decide)
      | false =>
        obtain ⟨starts, tame, -, -⟩ := isOther_markup here element xhtml
        obtain ⟨rest, spelled⟩ := List.head?_eq_some_iff.mp starts
        rw [spelled] at tame ⊢
        exact not_prefix_of_isTame (isBlockTag_marker .opener) tame _
    · exact absurd rfl (noOpener _ rfl)
    · exact fun opener =>
        absurd (List.cons_prefix_cons.mp (List.cons_prefix_cons.mp opener).2).1 (by decide)

/-- A quote of children is the quote of their markup, of which a paragraph at the start has no
marker in front any more. -/
theorem ofChildren_spells (options : Options) {children : List Child} (plain : ArePlain children)
    (state : RenderState) :
    ∃ marker pieces, pieces.map Piece.child = children ∧ StartsBare pieces ∧
      ofChildren options children state =
        ['\n'] ++ (markerHtml marker ++ Hook.quoteMarkup (rowHtml options.xhtml pieces)) := by
  obtain ⟨pieces, rfl, noCloser, content⟩ := renderChildren_spells options children state
  have plainPieces : ∀ piece ∈ pieces, ∀ text ∈ piece.child.texts, '<' ∉ text :=
    fun piece member => plain piece.child (List.mem_map_of_mem member)
  have quoted : ofChildren options (pieces.map Piece.child) state =
      (Hook.quote (renderChildren options (pieces.map Piece.child) state).2
        (rowHtml options.xhtml pieces)).1 := congrArg (fun html => (Hook.quote _ html).1) content
  rw [quoted]
  generalize (renderChildren options (pieces.map Piece.child) state).2 = after
  by_cases opens : ∃ first ∈ pieces.head?, first.marker = some .opener
  · obtain ⟨⟨_, child⟩, inHead, rfl⟩ := opens
    obtain ⟨others, rfl⟩ := List.head?_eq_some_iff.mp inHead
    obtain ⟨here, later⟩ := List.forall_mem_cons.mp plainPieces
    have plainRest : ∀ piece ∈ (⟨none, child⟩ :: others : List Piece),
        ∀ text ∈ piece.child.texts, '<' ∉ text := List.forall_mem_cons.mpr ⟨here, later⟩
    have noOpener := not_opener_rowHtml plainRest options.xhtml
      (by rintro first ⟨⟩; exact (Option.some_ne_none _).symm)
    refine ⟨none, ⟨none, child⟩ :: others, rfl, by rintro first ⟨⟩ -; rfl, ?_⟩
    exact congrArg Prod.fst (quote_behind_opener after true noOpener)
  · have noOpener := not_opener_rowHtml plainPieces options.xhtml
      fun first inHead isOpener => opens ⟨first, inHead, isOpener⟩
    refine ⟨if after.groupOpen then some .closer else none, pieces, rfl, ?_, ?_⟩
    · intro first inHead element
      have member := List.mem_of_head? inHead
      cases isMarker : first.marker with
      | none => rfl
      | some marker =>
        cases marker with
        | opener => exact absurd ⟨first, inHead, isMarker⟩ opens
        | closer => exact absurd isMarker (noCloser first member element)
    · have rendered := congrArg Prod.fst (quote_behind_opener after false noOpener)
      rw [if_neg Bool.false_ne_true, List.nil_append] at rendered
      rw [rendered]
      cases after.groupOpen <;> rfl

end Quote

end BookMarkup
