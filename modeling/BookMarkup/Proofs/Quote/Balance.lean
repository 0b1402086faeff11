/-
This file proves exactly when a quote keeps the paragraph tags of its children balanced. The
quote puts two tags of its own around a body that may lose one at each end, and each end is
looked at alone. So the tags stay balanced if the body loses a tag at both ends or at none.
The body ends where the children end, or where the last citation was cut off; of what stands
behind the citation, the part up to the first end tag of a paragraph is shown.
-/

import BookMarkup.Proofs.Quote.Row

namespace BookMarkup

namespace Quote

open BookMarkup.Group

/-! ### The condition -/

/-- The last of some children with a citation, between the others. -/
structure LastCited where
  front : List Child
  child : Child
  behind : List Child
  deriving DecidableEq, Repr

/-- Finds the last child with a citation. -/
def lastCited? : List Child → Option LastCited
  | [] => none
  | child :: others =>
    match lastCited? others with
    | some found => some { found with front := child :: found.front }
    | none => if child.cited then some ⟨[], child, others⟩ else none

/-- Whether visible text stands in front of the last citation of a text. -/
def showsBefore (text : Text) : Bool :=
  match Text.breakOnLast citationMarker text with
  | some (before, _) => !before.all isBlank
  | none => false

/-- Whether a quote of some children keeps the paragraph tags balanced. Its body loses a tag at the
front if it starts with a paragraph element, and one at its end if it ends with such an element or
is cut right behind a start tag. -/
def keepsTags (children : List Child) : Bool :=
  match lastCited? children with
  | none => !startsElement children || endsElement children
  | some ⟨front, child, behind⟩ =>
    if child.isElement then
      front.isEmpty || startsElement front == child.texts.any showsBefore
    else !startsElement front && !behind.any Child.isElement

theorem uncited_of_lastCited? {children : List Child} (absent : lastCited? children = none) :
    ∀ child ∈ children, child.cited = false := by
  induction children with
  | nil => exact fun child member => (List.not_mem_nil member).elim
  | cons child others inductionHypothesis =>
    unfold lastCited? at absent
    split at absent
    · cases absent
    · next absentLater =>
      split at absent
      · cases absent
      · next uncited =>
        exact List.forall_mem_cons.mpr ⟨Bool.eq_false_iff.mpr uncited,
          inductionHypothesis absentLater⟩

theorem lastCited?_spells {children front behind : List Child} {child : Child}
    (isLast : lastCited? children = some ⟨front, child, behind⟩) :
    children = front ++ child :: behind ∧ child.cited = true ∧
      ∀ other ∈ behind, other.cited = false := by
  induction children generalizing front with
  | nil => cases isLast
  | cons first others inductionHypothesis =>
    unfold lastCited? at isLast
    split at isLast
    · next found isLater =>
      cases isLast
      obtain ⟨spelled, cited, uncited⟩ := inductionHypothesis isLater
      exact ⟨congrArg (first :: ·) spelled, cited, uncited⟩
    · next absentLater =>
      split at isLast
      · next cited =>
        cases isLast
        exact ⟨rfl, cited, uncited_of_lastCited? absentLater⟩
      · cases isLast

/-! ### The tags of a quote -/

theorem tags_start_append (rest : Text) : tags ("<p>".toList ++ rest) = .start :: tags rest := by
  have first : tags "<p>".toList = [.start] := by decide
  rw [tags_append_of_getLast? (by decide), first, List.singleton_append]

/-- Of a paragraph that is cut in its text, the start tag is there. -/
theorem tags_append_cut (left : Text) {text : Text} (plain : '<' ∉ text) :
    tags (left ++ ("<p>".toList ++ text)) = tags left ++ [.start] := by
  have head : ∀ first ∈ ("<p>".toList ++ text).head?, first = '<' ∨ first = '\n' :=
    fun first inHead => Or.inl (Option.some.inj inHead).symm
  rw [tags_append_of_head? head, tags_start_append, tags_plain plain]

theorem tags_quoteStart_append (body : Text) {rest : Text}
    (starts : ∀ first ∈ rest.head?, first = '<' ∨ first = '\n') :
    tags ("<blockquote>\n<p>".toList ++ (body ++ rest)) = .start :: (tags body ++ tags rest) := by
  have first : tags "<blockquote>\n<p>".toList = [.start] := by decide
  rw [tags_append_of_getLast? (by decide), tags_append_of_head? starts, first,
    List.singleton_append]

/-- The footer holds the paragraph tags of the citation. -/
theorem tags_citationFooter (behind : Text) :
    tags (Hook.citationFooter (some (beforeParagraphEnd (citationMarker ++ behind)))) =
      tags (beforeParagraphEnd behind) := by
  have cut : beforeParagraphEnd (citationMarker ++ behind) =
      citationMarker ++ beforeParagraphEnd behind :=
    beforeParagraphEnd_tame_append (by decide) behind
  have cuts : ∀ needle ∈ tagNeedles, IsCut needle.1 :=
    forall_mem_tagNeedles fun tag => Or.inr ⟨tag.isBlockTag, by cases tag <;> decide⟩
  have ends : ("<footer>".toList ++ (citationMarker ++ beforeParagraphEnd behind) ++
      "</footer>".toList).getLast? = some '>' := List.getLast?_append_of_ne_nil _ (by decide)
  have first : tags "<footer>".toList = [] := by decide
  have last : tags "</footer>".toList = [] := by decide
  rw [Hook.citationFooter, cut, tags, signs_autolink cuts ends, ← tags,
    tags_append_of_head? (by decide), tags_append_of_getLast? (by decide), first, last,
    tags_plain_append (by decide), List.nil_append, List.append_nil]

/-- A walk through a quote ends on the ground if its body is left above the ground and the rest
brings it down. -/
theorem walk_quote_eq_iff {inner footer : List ParagraphTag} :
    walk 0 (.start :: (inner ++ .stop :: footer)) = some 0 ↔
      ∃ height, walk 1 inner = some (height + 1) ∧ walk height footer = some 0 := by
  rw [walk, walk_append, Option.bind_eq_some_iff]
  constructor
  · rintro ⟨between, inside, outside⟩
    cases between with
    | zero => cases outside
    | succ height => exact ⟨height, inside, outside⟩
  · rintro ⟨height, inside, outside⟩
    exact ⟨height + 1, inside, outside⟩

/-- The height at which a walk leaves the stripped body of a quote, which it enters behind the
start tag of the quote. -/
def bodyHeight (body : Text) : Option Nat :=
  walk 1 (tags (stripMarks body))

section Markup

variable (marker : Option GroupMarker)

theorem isBalanced_quote_iff (content : Text) :
    IsBalanced (['\n'] ++ (markerHtml marker ++ Hook.quoteMarkup content)) ↔
      walk 0 (tags (Hook.quoteMarkup content)) = some 0 := by
  obtain ⟨-, -, quiet⟩ := markerHtml_spells marker
  have starts : ∀ first ∈ (Hook.quoteMarkup content).head?, first = '<' ∨ first = '\n' :=
    fun first inHead => Or.inl (Option.some.inj inHead).symm
  rw [isBalanced_iff, tags_plain_append (by decide), tags_append_of_head? starts, quiet,
    List.nil_append]

theorem isBalanced_of_uncited_iff {content : Text} (uncited : cites content = false) :
    IsBalanced (['\n'] ++ (markerHtml marker ++ Hook.quoteMarkup content)) ↔
      bodyHeight content = some 1 := by
  have last : tags (stop ++ "</blockquote>\n".toList) = [.stop] := by decide
  rw [isBalanced_quote_iff, quoteMarkup_of_uncited (cites_eq_false_iff.mp uncited),
    tags_quoteStart_append _ (by decide), last, walk_quote_eq_iff]
  constructor
  · rintro ⟨height, inside, ground⟩
    cases ground
    exact inside
  · exact fun inside => ⟨0, inside, rfl⟩

theorem isBalanced_of_cited_iff {body behind : Text} (nonempty : body ≠ [])
    (uncited : cites behind = false) :
    IsBalanced (['\n'] ++ (markerHtml marker ++
        Hook.quoteMarkup (body ++ (citationMarker ++ behind)))) ↔
      ∃ height, bodyHeight (Text.trim body) = some (height + 1) ∧
        walk height (tags (beforeParagraphEnd behind)) = some 0 := by
  have found := breakOnLast_citation (fun inside => Bool.eq_false_iff.mp uncited
    (cites_iff.mpr inside)) body
  have last : tags "</blockquote>\n".toList = [] := by decide
  have one : tags stop = [.stop] := by decide
  have starts (rest : Text) : ∀ first ∈ (stop ++ rest).head?, first = '<' ∨ first = '\n' :=
    fun first inHead => Or.inl (Option.some.inj inHead).symm
  rw [isBalanced_quote_iff, quoteMarkup_of_cited nonempty found,
    tags_quoteStart_append _ (starts _), tags_append_of_getLast? (by decide),
    tags_append_of_head? (by decide), tags_citationFooter, one, last, List.append_nil]
  exact walk_quote_eq_iff

end Markup

/-! ### Stripped rows -/

section Stripped

variable {html : Text} {opens : Bool}

/-- Behind the start tag at its front, a row ends one step lower than it starts. -/
theorem IsRow.opened (row : IsRow html true) :
    ∃ inner, html = "<p>".toList ++ inner ∧ IsUnfinished inner ∧
      ∀ height, walk (height + 1) (tags inner) = some height := by
  obtain ⟨inner, rfl⟩ := row.opens_iff.mpr rfl
  refine ⟨inner, rfl, fun tag ends => ?_, fun height => ?_⟩
  · exact row.unfinished tag (ends.trans (List.suffix_append _ _))
  · have closed := row.closed height
    rw [tags_start_append] at closed
    exact closed

theorem IsRow.not_start (row : IsRow html false) : ¬ "<p>".toList <+: html :=
  fun tag => Bool.false_ne_true (row.opens_iff.mp tag)

/-- A row that starts with another tag loses none. -/
theorem bodyHeight_other (row : IsRow html false) : bodyHeight html = some 1 := by
  rw [bodyHeight, tags_stripMarks_of_other row.starts row.not_start,
    dropEndTag_of_unfinished row.unfinished]
  exact row.closed 1

/-- A row that does not end in a paragraph tag up to blanks loses just the start tag at its
front. -/
theorem bodyHeight_row (row : IsRow html opens) (unfinished : IsUnfinished (Text.trimEnd html)) :
    bodyHeight html = some (if opens then 0 else 1) := by
  cases opens with
  | false => exact bodyHeight_other row
  | true =>
    obtain ⟨inner, rfl, -, closed⟩ := row.opened
    have stripped := isUnfinished_stripped unfinished
    rw [dropStartTag_start] at stripped
    rw [bodyHeight, tags_stripMarks_opened stripped]
    exact closed 0

section Paragraph

variable {text : Text} (plain : '<' ∉ text)

include plain

/-- A paragraph at the front of a body that is cut in it loses its start tag. -/
theorem bodyHeight_first : bodyHeight ("<p>".toList ++ text) = some 1 := by
  have quiet : tags (dropOpeningMark (Text.trim text)) = [] := by
    rw [tags_dropOpeningMark, tags_trim, tags_plain plain]
  have unfinished : IsUnfinished (dropOpeningMark (Text.trim text)) :=
    fun tag ends => tags_eq_nil_iff.mp quiet tag ends.isInfix
  rw [bodyHeight, tags_stripMarks_opened unfinished, tags_plain plain]
  rfl

/-- A paragraph at the end of a body loses its end tag. -/
theorem bodyHeight_closed (row : IsRow html opens) (first : html = [] ∨ opens = true) :
    bodyHeight (html ++ ("<p>".toList ++ (text ++ (stop ++ ['\n'])))) = some 1 := by
  have blank : ∀ c ∈ ['\n'], isBlank c = true := by decide
  rcases first with rfl | rfl
  · rw [bodyHeight, List.nil_append, tags_stripMarks_closed text blank, tags_plain plain]
    rfl
  · obtain ⟨inner, rfl, -, closed⟩ := row.opened
    have whole : "<p>".toList ++ inner ++ ("<p>".toList ++ (text ++ (stop ++ ['\n']))) =
        "<p>".toList ++ (inner ++ ("<p>".toList ++ text) ++ (stop ++ ['\n'])) := by
      simp only [List.append_assoc]
    rw [bodyHeight, whole, tags_stripMarks_closed _ blank,
      tags_append_cut _ plain, walk_append, closed 0]
    rfl

end Paragraph

section Cut

variable (row : IsRow html opens) (nonempty : html ≠ [])

include row nonempty

theorem not_start_row_paragraph {text : Text} (other : opens = false) :
    ¬ "<p>".toList <+: html ++ ("<p>".toList ++ text) := by
  subst other
  refine mt (start_prefix_append_iff nonempty fun first inHead => ?_).mp row.not_start
  exact (Option.some.inj inHead).symm

theorem starts_row_append (rest : Text) : ∀ first ∈ (html ++ rest).head?, first = '<' := by
  obtain ⟨first, others, rfl⟩ := List.exists_cons_of_ne_nil nonempty
  exact row.starts

/-- A start tag at the end of a body is lost. -/
theorem bodyHeight_bare :
    bodyHeight (html ++ "<p>".toList) = some (if opens then 0 else 1) := by
  cases opens with
  | false =>
    have other := @not_start_row_paragraph html false row nonempty [] rfl
    rw [List.append_nil] at other
    rw [bodyHeight, tags_stripMarks_of_other (starts_row_append row nonempty _) other,
      tags_dropEndTag_start row.unfinished]
    exact row.closed 1
  | true =>
    obtain ⟨inner, rfl, unfinished, closed⟩ := row.opened
    rw [bodyHeight, List.append_assoc, tags_stripMarks_bare unfinished]
    exact closed 0

/-- A start tag in front of visible text at the end of a body is kept. -/
theorem bodyHeight_cut {text : Text} (plain : '<' ∉ text) (some' : text ≠ [])
    (trimmed : Text.trimEnd text = text) :
    bodyHeight (html ++ ("<p>".toList ++ text)) = some (if opens then 1 else 2) := by
  have ends : (html ++ "<p>".toList).getLast? = some '>' :=
    List.getLast?_append_of_ne_nil _ (by decide)
  have visible : ∃ last ∈ (html ++ "<p>".toList).getLast?, isBlank last = false :=
    ⟨'>', ends, by decide⟩
  have unfinished : IsUnfinished (html ++ ("<p>".toList ++ text)) := by
    intro tag
    rw [← List.append_assoc]
    exact not_tag_suffix_append (by cases tag <;> decide) (by cases tag <;> decide) ends some' plain
  cases opens with
  | false =>
    rw [bodyHeight, tags_stripMarks_of_other (starts_row_append row nonempty _)
      (not_start_row_paragraph row nonempty rfl), dropEndTag_of_unfinished unfinished,
      tags_append_cut _ plain, walk_append, row.closed 1]
    rfl
  | true =>
    obtain ⟨inner, rfl, -, closed⟩ := row.opened
    have still :
        IsUnfinished (Text.trimEnd ("<p>".toList ++ (inner ++ ("<p>".toList ++ text)))) := by
      rw [← List.append_assoc, ← List.append_assoc, Text.trimEnd_append_of_visible visible, trimmed,
        List.append_assoc]
      exact unfinished
    have stripped := isUnfinished_stripped still
    rw [dropStartTag_start] at stripped
    rw [bodyHeight, List.append_assoc, tags_stripMarks_opened stripped,
      tags_append_cut _ plain, walk_append, closed 0]
    rfl

end Cut

end Stripped

/-! ### Blanks at the ends of a row -/

theorem head?_trimEnd {part : Text} (starts : part.head? = some '<') :
    (Text.trimEnd part).head? = some '<' := by
  obtain ⟨rest, rfl⟩ := List.head?_eq_some_iff.mp starts
  rw [← List.singleton_append, Text.trimEnd_append_of_visible ⟨'<', rfl, by decide⟩]
  rfl

theorem trimEnd_append_tag {part : Text} (starts : part.head? = some '<') (front : Text) :
    Text.trimEnd (front ++ part) = front ++ Text.trimEnd part := by
  refine (Text.trimEnd_append (Bool.eq_false_iff.mpr fun blank => ?_) front).1
  exact absurd (List.all_eq_true.mp blank '<' (List.mem_of_head? starts)) (by decide)

/-- Trimming takes blanks off the end of a row only. -/
theorem trim_append_tag {html part : Text} (isRow : ∀ first ∈ html.head?, first = '<')
    (starts : part.head? = some '<') : Text.trim (html ++ part) = html ++ Text.trimEnd part := by
  have visible : ∃ first ∈ (html ++ part).head?, isBlank first = false := by
    cases html with
    | nil => exact ⟨'<', starts, by decide⟩
    | cons first rest => exact ⟨first, rfl, by rw [isRow first rfl]; decide⟩
  rw [Text.trim, Text.trimStart_of_visible visible, trimEnd_append_tag starts]

theorem isUnfinished_trimEnd_append {part : Text} (starts : part.head? = some '<')
    (quiet : tags part = []) (front : Text) : IsUnfinished (Text.trimEnd (front ++ part)) := by
  rw [trimEnd_append_tag starts]
  exact isUnfinished_append (head?_trimEnd starts) ((tags_trimEnd part).trans quiet) front

/-! ### Children around a child -/

section Around

variable {front behind : List Piece} {marker : Option GroupMarker} {child : Child}

theorem rowHtml_around (xhtml : Bool) :
    rowHtml xhtml (front ++ ⟨marker, child⟩ :: behind) =
      rowHtml xhtml front ++ markerHtml marker ++ (child.markup xhtml ++ rowHtml xhtml behind) := by
  simp only [rowHtml_append, rowHtml_cons, Piece.html, List.append_assoc]

variable (plain : ∀ piece ∈ front ++ ⟨marker, child⟩ :: behind,
    ∀ text ∈ piece.child.texts, '<' ∉ text)
  (bare : StartsBare (front ++ ⟨marker, child⟩ :: behind)) (xhtml : Bool)

include plain bare

/-- The markup in front of a child is a row. -/
theorem isRow_front : IsRow (rowHtml xhtml front ++ markerHtml marker)
    (startsElement (front.map Piece.child)) := by
  have bareFront : StartsBare front := by
    cases front with
    | nil => exact fun first inHead => (Option.not_mem_none first inHead).elim
    | cons first others => exact bare
  exact (isRow_rowHtml (List.forall_mem_append.mp plain).1 xhtml bareFront).marker marker

omit plain in
theorem front_eq_nil (first : front = []) (element : child.isElement = true) :
    rowHtml xhtml front ++ markerHtml marker = [] := by
  subst first
  have noMarker : marker = none := bare _ rfl element
  rw [noMarker]
  rfl

omit bare in
theorem front_ne_nil (some' : front ≠ []) : rowHtml xhtml front ++ markerHtml marker ≠ [] := by
  obtain ⟨first, others, rfl⟩ := List.exists_cons_of_ne_nil some'
  have starts := (html_spells (plain first List.mem_cons_self) xhtml).1
  refine List.append_ne_nil_of_left_ne_nil (List.append_ne_nil_of_left_ne_nil ?_ _) _
  rintro empty
  rw [empty] at starts
  cases starts

end Around

/-- A body that starts with a paragraph element and is not cut loses two tags or one. -/
theorem bodyHeight_opened {front : List Piece} {last : Piece}
    (plain : ∀ piece ∈ front ++ [last], ∀ text ∈ piece.child.texts, '<' ∉ text)
    (bare : StartsBare (front ++ [last])) (xhtml : Bool)
    (opens : startsElement ((front ++ [last]).map Piece.child) = true) :
    bodyHeight (rowHtml xhtml (front ++ [last])) =
      some (if last.child.isElement then 1 else 0) := by
  obtain ⟨marker, child⟩ := last
  have here := plain ⟨marker, child⟩ (List.mem_append_right _ List.mem_cons_self)
  have whole : rowHtml xhtml (front ++ [⟨marker, child⟩]) =
      rowHtml xhtml front ++ markerHtml marker ++ child.markup xhtml := by
    rw [rowHtml_around, rowHtml_nil, List.append_nil]
  cases element : child.isElement with
  | true =>
    obtain ⟨text, rfl, plainText, spelled⟩ := markup_of_isElement here element xhtml
    rw [whole, spelled]
    refine bodyHeight_closed plainText (isRow_front plain bare xhtml) ?_
    by_cases alone : front = []
    · exact Or.inl (front_eq_nil bare xhtml alone element)
    · obtain ⟨first, others, rfl⟩ := List.exists_cons_of_ne_nil alone
      exact Or.inr opens
  | false =>
    have other := isOther_markup here element xhtml
    have row := isRow_rowHtml plain xhtml bare
    rw [opens, whole] at row
    rw [whole]
    exact bodyHeight_row row
      (isUnfinished_trimEnd_append other.starts (tags_of_isTame other.tame) _)

/-- A body that is not cut keeps the tags balanced if it is a paragraph element at both ends or
does not start with one. -/
theorem bodyHeight_rowHtml_iff {pieces : List Piece}
    (plain : ∀ piece ∈ pieces, ∀ text ∈ piece.child.texts, '<' ∉ text)
    (bare : StartsBare pieces) (xhtml : Bool) :
    bodyHeight (rowHtml xhtml pieces) = some 1 ↔
      (!startsElement (pieces.map Piece.child) || endsElement (pieces.map Piece.child)) = true := by
  cases opens : startsElement (pieces.map Piece.child) with
  | false =>
    have row := isRow_rowHtml plain xhtml bare
    rw [opens] at row
    exact iff_of_true (bodyHeight_other row) rfl
  | true =>
    cases pieces using List.reverseRecOn with
    | nil => cases opens
    | append_singleton front last =>
      have ends : endsElement ((front ++ [last]).map Piece.child) = last.child.isElement := by
        rw [endsElement, List.map_append, List.map_singleton, List.getLast?_concat, Option.any_some]
      rw [bodyHeight_opened plain bare xhtml opens, ends]
      cases last.child.isElement <;> decide

/-! ### Children behind the citation -/

theorem hasStop_of_tags {text : Text} (absent : .stop ∉ tags text) : hasStop text = false := by
  rw [mem_tags_iff] at absent
  exact hasStop_eq_false_iff.mpr absent

/-- The footer shows the start tag of a paragraph element behind the citation, but never its end
tag. -/
theorem tags_beforeParagraphEnd_rowHtml {pieces : List Piece}
    (plain : ∀ piece ∈ pieces, ∀ text ∈ piece.child.texts, '<' ∉ text) (xhtml : Bool)
    {front : Text} (quiet : tags front = []) :
    tags (beforeParagraphEnd (front ++ rowHtml xhtml pieces)) =
      if (pieces.map Piece.child).any Child.isElement then [.start] else [] := by
  induction pieces generalizing front with
  | nil =>
    have noStop : hasStop front = false := hasStop_of_tags (by rw [quiet]; exact List.not_mem_nil)
    rw [rowHtml_nil, List.append_nil, beforeParagraphEnd_of_not_hasStop noStop, quiet]
    rfl
  | cons piece others inductionHypothesis =>
    obtain ⟨here, later⟩ := List.forall_mem_cons.mp plain
    rw [rowHtml_cons, ← List.append_assoc, List.map_cons, List.any_cons]
    cases element : piece.child.isElement with
    | false =>
      obtain ⟨starts, -, -, read⟩ := html_spells here xhtml
      have head : ∀ first ∈ (piece.html xhtml).head?, first = '<' ∨ first = '\n' := by
        rw [starts]
        rintro first ⟨⟩
        exact Or.inl rfl
      have still : tags (front ++ piece.html xhtml) = [] := by
        rw [tags_append_of_head? head, quiet, read, element]
        rfl
      rw [inductionHypothesis later still, Bool.false_or]
    | true =>
      obtain ⟨text, -, plainText, spelled⟩ := markup_of_isElement here element xhtml
      obtain ⟨tagFirst, -, silent⟩ := markerHtml_spells piece.marker
      have one : tags (front ++ markerHtml piece.marker ++ ("<p>".toList ++ text)) = [.start] := by
        rw [tags_append_cut _ plainText,
          tags_append_of_head? fun first inHead => Or.inl (tagFirst first inHead), quiet, silent]
        rfl
      have noStop : hasStop (front ++ markerHtml piece.marker ++ ("<p>".toList ++ text)) = false :=
        hasStop_of_tags (by rw [one]; decide)
      have cut : front ++ piece.html xhtml ++ rowHtml xhtml others =
          front ++ markerHtml piece.marker ++ ("<p>".toList ++ text) ++
            (stop ++ (['\n'] ++ rowHtml xhtml others)) := by
        rw [Piece.html, spelled]
        simp only [List.append_assoc]
      rw [cut, beforeParagraphEnd_append_stop, beforeParagraphEnd_of_not_hasStop noStop, one]
      rfl

/-! ### Quotes with a citation -/

theorem cites_breakOnLast {text : Text} (cited : cites text = true) :
    ∃ before after, Text.breakOnLast citationMarker text = some (before, after) ∧
      text = before ++ (citationMarker ++ after) ∧ cites after = false := by
  cases broken : Text.breakOnLast citationMarker text with
  | none =>
    rw [cites_eq_false_iff.mpr broken] at cited
    cases cited
  | some parts =>
    obtain ⟨before, after⟩ := parts
    have spelled := (Text.breakOnLast_spells broken).trans (List.append_assoc _ _ _)
    refine ⟨before, after, rfl, spelled, ?_⟩
    rw [← Bool.not_eq_true, cites_iff]
    exact Text.not_infix_behind_of_breakOnLast citationMarker_ne_nil broken

section Cited

variable {front behind : List Piece} {marker : Option GroupMarker} {child : Child}
  (plain : ∀ piece ∈ front ++ ⟨marker, child⟩ :: behind,
    ∀ text ∈ piece.child.texts, '<' ∉ text)
  (bare : StartsBare (front ++ ⟨marker, child⟩ :: behind)) (xhtml : Bool)
  (cited : child.cited = true) (uncited : ∀ other ∈ behind.map Piece.child, other.cited = false)
  (outer : Option GroupMarker)

include plain uncited in
theorem uncited_behind {after : Text} (uncitedAfter : cites after = false) :
    (∀ first ∈ (rowHtml xhtml behind).head?, first = '<') ∧
      cites (after ++ rowHtml xhtml behind) = false := by
  have plainBehind := (List.forall_mem_cons.mp (List.forall_mem_append.mp plain).2).2
  obtain ⟨starts, -, same, -⟩ := rowHtml_spells plainBehind xhtml
  have noDash : (rowHtml xhtml behind).head? ≠ some '\u2014' :=
    fun dash => absurd (starts _ dash) (by decide)
  have none : behind.any (·.child.cited) = false :=
    List.any_eq_false.mpr fun piece member =>
      Bool.eq_false_iff.mp (uncited piece.child (List.mem_map_of_mem member))
  refine ⟨starts, ?_⟩
  rw [cites_append_of_head? noDash, same, none, uncitedAfter]
  rfl

include plain bare cited uncited

/-- A citation in a child without paragraph tags. -/
theorem isBalanced_of_other_iff (other : child.isElement = false) :
    IsBalanced (['\n'] ++ (markerHtml outer ++
        Hook.quoteMarkup (rowHtml xhtml (front ++ ⟨marker, child⟩ :: behind)))) ↔
      (!startsElement (front.map Piece.child) &&
        !(behind.map Piece.child).any Child.isElement) = true := by
  obtain ⟨-, here, plainBehind⟩ :=
    (List.forall_mem_append.mp plain).imp id List.forall_mem_cons.mp
  have row := isRow_front plain bare xhtml
  obtain ⟨starts, tame, -, same⟩ := isOther_markup here other xhtml
  have quiet := tags_of_isTame tame
  obtain ⟨before, after, -, spelled, uncitedAfter⟩ := cites_breakOnLast (same.trans cited)
  obtain ⟨-, uncitedRest⟩ := uncited_behind plain xhtml uncited uncitedAfter
  have startsBefore : before.head? = some '<' := by
    cases before with
    | nil =>
      rw [spelled] at starts
      exact absurd (Option.some.inj starts) (by decide)
    | cons first rest =>
      rw [spelled] at starts
      exact starts
  have quietBefore : tags before = [] :=
    tags_of_infix quiet ⟨[], citationMarker ++ after, spelled.symm⟩
  have quietAfter : tags after = [] :=
    tags_of_infix quiet ⟨before ++ citationMarker, [], by
      rw [spelled, List.append_nil, List.append_assoc]⟩
  have nonempty : rowHtml xhtml front ++ markerHtml marker ++ before ≠ [] := by
    refine List.append_ne_nil_of_right_ne_nil _ ?_
    rintro rfl
    cases startsBefore
  have whole : rowHtml xhtml (front ++ ⟨marker, child⟩ :: behind) =
      rowHtml xhtml front ++ markerHtml marker ++ before ++
        (citationMarker ++ (after ++ rowHtml xhtml behind)) := by
    rw [rowHtml_around, spelled]
    simp only [List.append_assoc]
  have height : bodyHeight (Text.trim (rowHtml xhtml front ++ markerHtml marker ++ before)) =
      some (if startsElement (front.map Piece.child) then 0 else 1) := by
    rw [trim_append_tag row.starts startsBefore]
    have startsTrimmed := head?_trimEnd startsBefore
    have quietTrimmed := (tags_trimEnd before).trans quietBefore
    exact bodyHeight_row (row.append startsTrimmed quietTrimmed)
      (isUnfinished_trimEnd_append startsTrimmed quietTrimmed _)
  rw [whole, isBalanced_of_cited_iff outer nonempty uncitedRest, height,
    tags_beforeParagraphEnd_rowHtml plainBehind xhtml quietAfter]
  cases startsElement (front.map Piece.child) with
  | true =>
    refine iff_of_false ?_ Bool.false_ne_true
    rintro ⟨height, low, -⟩
    exact absurd (Option.some.inj low).symm (Nat.succ_ne_zero height)
  | false =>
    cases (behind.map Piece.child).any Child.isElement with
    | true =>
      refine iff_of_false ?_ (by decide)
      rintro ⟨height, -, ground⟩
      exact absurd (Option.some.inj ground) (Nat.succ_ne_zero height)
    | false => exact iff_of_true ⟨0, rfl, rfl⟩ rfl

omit cited uncited in
/-- A body that is cut in a paragraph element keeps the tags balanced if it is the first element or
if a start tag is lost only at one end. -/
theorem bodyHeight_trim_iff (element : child.isElement = true) {before : Text}
    (plainBefore : '<' ∉ before) :
    bodyHeight (Text.trim (rowHtml xhtml front ++ markerHtml marker ++
        ("<p>".toList ++ before))) = some 1 ↔
      (front.isEmpty || startsElement (front.map Piece.child) == !before.all isBlank) = true := by
  have row := isRow_front plain bare xhtml
  have plainTrimmed : '<' ∉ Text.trimEnd before := fun member =>
    plainBefore ((Text.dropEndWhile_starts isBlank before).subset member)
  have starts : ("<p>".toList ++ before).head? = some '<' := rfl
  rw [trim_append_tag row.starts starts, Text.trimEnd_append_of_visible ⟨'>', rfl, by decide⟩]
  by_cases alone : front = []
  · rw [front_eq_nil bare xhtml alone element, List.nil_append, alone]
    exact iff_of_true (bodyHeight_first plainTrimmed) rfl
  · have nonempty := @front_ne_nil front behind marker child plain xhtml alone
    rw [List.isEmpty_eq_false_iff.mpr alone, Bool.false_or]
    cases blank : before.all isBlank with
    | true =>
      have none : Text.trimEnd before = [] :=
        Text.trimEnd_append_blanks [] (List.all_eq_true.mp blank)
      rw [none, List.append_nil, bodyHeight_bare row nonempty]
      cases startsElement (front.map Piece.child) <;> decide
    | false =>
      have visible : Text.trimEnd before ≠ [] := (Text.trimEnd_append blank []).2
      rw [bodyHeight_cut row nonempty plainTrimmed visible (Text.trimEnd_trimEnd before)]
      cases startsElement (front.map Piece.child) <;> decide

/-- A citation in a paragraph element. -/
theorem isBalanced_of_element_iff (element : child.isElement = true) :
    IsBalanced (['\n'] ++ (markerHtml outer ++
        Hook.quoteMarkup (rowHtml xhtml (front ++ ⟨marker, child⟩ :: behind)))) ↔
      (front.isEmpty || startsElement (front.map Piece.child) == child.texts.any showsBefore) =
        true := by
  have here := (List.forall_mem_cons.mp (List.forall_mem_append.mp plain).2).1
  obtain ⟨text, rfl, plainText, spelled⟩ := markup_of_isElement here element xhtml
  have citedText : cites text = true := (Bool.or_false _).symm.trans cited
  obtain ⟨before, after, broken, inText, uncitedAfter⟩ := cites_breakOnLast citedText
  have shows : (Child.paragraph text).texts.any showsBefore = !before.all isBlank := by
    show (showsBefore text || false) = _
    rw [Bool.or_false, showsBefore, broken]
  have plainParts : '<' ∉ before ∧ '<' ∉ citationMarker ++ after := by
    rw [inText, List.mem_append, not_or] at plainText
    exact plainText
  have plainAfter : '<' ∉ after := fun member => plainParts.2 (List.mem_append_right _ member)
  have uncitedEnd : cites (after ++ (stop ++ ['\n'])) = false := by
    have last : cites (stop ++ ['\n']) = false := by decide
    rw [cites_append_of_head? (by decide), uncitedAfter, last]
    rfl
  obtain ⟨-, uncitedRest⟩ := uncited_behind plain xhtml uncited uncitedEnd
  have nonempty : rowHtml xhtml front ++ markerHtml marker ++ ("<p>".toList ++ before) ≠ [] :=
    List.append_ne_nil_of_right_ne_nil _ (List.cons_ne_nil _ _)
  have whole : rowHtml xhtml (front ++ ⟨marker, .paragraph text⟩ :: behind) =
      rowHtml xhtml front ++ markerHtml marker ++ ("<p>".toList ++ before) ++
        (citationMarker ++ (after ++ (stop ++ ['\n']) ++ rowHtml xhtml behind)) := by
    rw [rowHtml_around, spelled, inText]
    simp only [List.append_assoc]
  have footer : tags (beforeParagraphEnd (after ++ (stop ++ ['\n']) ++ rowHtml xhtml behind)) =
      [] := by
    rw [List.append_assoc, List.append_assoc, beforeParagraphEnd_append_stop,
      beforeParagraphEnd_of_not_hasStop (hasStop_plain plainAfter), tags_plain plainAfter]
  rw [whole, isBalanced_of_cited_iff outer nonempty uncitedRest, footer, shows,
    ← bodyHeight_trim_iff plain bare xhtml element plainParts.1]
  constructor
  · rintro ⟨height, inside, ground⟩
    cases ground
    exact inside
  · exact fun inside => ⟨0, inside, rfl⟩

end Cited

/-! ### Quotes of children -/

/-- A quote of paragraphs, rules and lists keeps their paragraph tags balanced exactly if its body
loses a tag at both ends or at none, and no paragraph follows the child of the citation. -/
theorem paragraph_tags_balanced_iff (options : Options) (state : RenderState)
    {children : List Child} (plain : ArePlain children) :
    IsBalanced (ofChildren options children state) ↔ keepsTags children = true := by
  obtain ⟨outer, pieces, rfl, bare, spelled⟩ := ofChildren_spells options plain state
  have plainPieces : ∀ piece ∈ pieces, ∀ text ∈ piece.child.texts, '<' ∉ text :=
    fun piece member => plain piece.child (List.mem_map_of_mem member)
  rw [spelled]
  unfold keepsTags
  cases isLast : lastCited? (pieces.map Piece.child) with
  | none =>
    have none : pieces.any (·.child.cited) = false :=
      List.any_eq_false.mpr fun piece member => Bool.eq_false_iff.mp
        (uncited_of_lastCited? isLast piece.child (List.mem_map_of_mem member))
    have uncited := (rowHtml_spells plainPieces options.xhtml).2.2.1.trans none
    exact (isBalanced_of_uncited_iff outer uncited).trans
      (bodyHeight_rowHtml_iff plainPieces bare options.xhtml)
  | some found =>
    obtain ⟨front, last, behind⟩ := found
    obtain ⟨around, cited, uncited⟩ := lastCited?_spells isLast
    obtain ⟨frontPieces, rest, rfl, rfl, inRest⟩ := List.map_eq_append_iff.mp around
    obtain ⟨⟨marker, child⟩, behindPieces, rfl, rfl, rfl⟩ := List.map_eq_cons_iff.mp inRest
    dsimp only
    cases element : child.isElement with
    | true =>
      rw [if_pos rfl, List.isEmpty_map]
      exact isBalanced_of_element_iff plainPieces bare options.xhtml cited uncited outer element
    | false =>
      rw [if_neg Bool.false_ne_true]
      exact isBalanced_of_other_iff plainPieces bare options.xhtml cited uncited outer element

/-- The body is cut behind a paragraph element and visible text, so it loses the start tag at its
front and keeps the one of the paragraph that it is cut in. -/
theorem paragraph_tags_balanced_around_rule :
    let children : List Child :=
      [.paragraph "a".toList, .rule, .paragraph "b\n\u2014 c".toList]
    ArePlain children ∧ keepsTags children = true ∧
      IsBalanced (ofChildren {} children (RenderState.fresh 1)) := by
  intro children
  have plain : ArePlain children := by
    unfold ArePlain
    decide
  have keeps : keepsTags children = true := by decide
  exact ⟨plain, keeps, (paragraph_tags_balanced_iff {} (RenderState.fresh 1) plain).mpr keeps⟩

/-- Behind a paragraph that starts a quote and a rule that ends it, one end tag is left over. -/
theorem paragraph_tags_may_be_unbalanced :
    ¬ ∀ (options : Options) (state : RenderState) (children : List Child), ArePlain children →
      IsBalanced (ofChildren options children state) := by
  intro always
  have plain : ArePlain [.paragraph "a".toList, .rule] := by
    unfold ArePlain
    decide
  have even := (always {} (RenderState.fresh 1) _ plain).even
  exact absurd even (by decide)

end Quote

end BookMarkup
