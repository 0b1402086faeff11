/-
This file gives the outlines of the constructs without content: paragraphs, headings and
rules whose texts hold no tags. A heading, or a paragraph that is a footnote, is tame and
adds only its citation to its group marker. A plain paragraph also ends a paragraph, and
its own marker is lost if it starts with its citation.
-/

import BookMarkup.Hook.Block
import BookMarkup.Proofs.Footnote.Mark
import BookMarkup.Proofs.Group.Outline
import BookMarkup.Proofs.Heading.Marker
import BookMarkup.Proofs.Text.Number

namespace BookMarkup

namespace Group

/-! ### Citations in parts -/

theorem cites_append_of_head? {left right : Text} (starts : right.head? ≠ some '\u2014') :
    cites (left ++ right) = (cites left || cites right) := by
  refine Text.occursIn_append (Or.inr fun first inHead among => starts ?_)
  rw [Option.mem_def.mp inHead, List.mem_singleton.mp among]

theorem cites_append_of_getLast? {left right : Text} (ends : left.getLast? ≠ some '\n') :
    cites (left ++ right) = (cites left || cites right) := by
  refine Text.occursIn_append (Or.inl fun last inLast among => ends ?_)
  rw [Option.mem_def.mp inLast, List.mem_singleton.mp among]

theorem cites_of_oneLine {text : Text} (oneLine : '\n' ∉ text) : cites text = false := by
  rw [← Bool.not_eq_true, cites_iff]
  exact fun inside => oneLine (inside.subset List.mem_cons_self)

theorem cites_of_no_dash {text : Text} (noDash : '\u2014' ∉ text) : cites text = false := by
  rw [← Bool.not_eq_true, cites_iff]
  exact fun inside => noDash (inside.subset (List.mem_cons_of_mem _ List.mem_cons_self))

/-- Text on one line in front adds no citation. -/
theorem cites_oneLine_append {front : Text} (oneLine : '\n' ∉ front) (rest : Text) :
    cites (front ++ rest) = cites rest := by
  have ends : front.getLast? ≠ some '\n' := fun last => oneLine (List.mem_of_getLast? last)
  rw [cites_append_of_getLast? ends, cites_of_oneLine oneLine, Bool.false_or]

/-- Text on one line that starts with no em dash separates citations. -/
theorem cites_append_separated {left between : Text}
    (starts : between.head?.any (· != '\u2014')) (oneLine : '\n' ∉ between) (rest : Text) :
    cites (left ++ (between ++ rest)) = (cites left || cites rest) := by
  obtain ⟨first, inHead, other⟩ := (Option.any_eq_true _ _).mp starts
  have head : (between ++ rest).head? ≠ some '\u2014' := by
    rw [List.head?_append, inHead]
    exact fun equal => bne_iff_ne.mp other (Option.some.inj equal)
  rw [cites_append_of_head? head, cites_oneLine_append oneLine]

/-! ### Headings -/

theorem cites_trimEnd (text : Text) : cites (Text.trimEnd text) = cites text := by
  obtain ⟨blanks, blank, whole⟩ := Text.exists_trimEnd_append text
  have noDash : '\u2014' ∉ blanks := fun member => absurd (blank _ member) (by decide)
  have starts : blanks.head? ≠ some '\u2014' := fun first => noDash (List.mem_of_head? first)
  have parts : cites (Text.trimEnd text ++ blanks) = (cites (Text.trimEnd text) || cites blanks) :=
    cites_append_of_head? starts
  rw [← whole, cites_of_no_dash noDash, Bool.or_false] at parts
  exact parts.symm

/-- A marked heading shows the citation that its text has. -/
theorem cites_marked {text : Text} {marked : Heading.Marked}
    (found : Heading.marked? text = some marked) : cites marked.text = cites text := by
  obtain ⟨visible, behind, whole, oneLine, atEnd, shown⟩ := Heading.marked?_spells found
  have noneBehind : cites behind = false := by
    rcases atEnd with rfl | rfl <;> decide
  have inVisible : cites ((Text.before? noBreakSpace visible).getD visible) = cites visible := by
    cases joined : Text.before? noBreakSpace visible with
    | none => rfl
    | some front =>
      have space : cites noBreakSpace = false := by decide
      rw [Option.getD_some, Text.before?_spells joined, cites_append_of_head? (by decide), space,
        Bool.or_false]
  have starts : (['{', '#'] ++ (marked.identifier ++ (['}'] ++ behind))).head? ≠
      some '\u2014' := fun first => absurd (Option.some.inj first) (by decide)
  rw [shown, cites_trimEnd, inVisible, whole, cites_append_of_head? starts,
    cites_oneLine_append (by decide), cites_oneLine_append oneLine,
    cites_oneLine_append (by decide), noneBehind, Bool.or_false]

/-- The parts of a marked heading hold no characters but those of its text. -/
theorem subset_of_marked? {text : Text} {marked : Heading.Marked}
    (found : Heading.marked? text = some marked) :
    marked.identifier ⊆ text ∧ marked.text ⊆ text := by
  obtain ⟨visible, behind, whole, -, -, shown⟩ := Heading.marked?_spells found
  have inVisible : (Text.before? noBreakSpace visible).getD visible ⊆ visible := by
    cases joined : Text.before? noBreakSpace visible with
    | none => exact List.Subset.refl _
    | some front =>
      rw [Option.getD_some]
      conv_rhs => rw [Text.before?_spells joined]
      exact List.subset_append_left _ _
  constructor
  · rw [whole]
    refine List.subset_append_of_subset_right _ (List.subset_append_of_subset_right _ ?_)
    exact List.subset_append_left _ _
  · rw [shown, whole]
    refine List.subset_append_of_subset_left _ (List.Subset.trans ?_ inVisible)
    exact (List.rdropWhile_prefix isBlank _).subset

/-- A heading in its parts: the attribute with the identifier and the title. -/
theorem headingMarkup_spells (number : Text) (level : Int) {text : Text} (plain : '<' ∉ text) :
    ∃ idAttribute title, Hook.headingMarkup number level text =
      "\n<h".toList ++ (Text.ofInt level ++ (idAttribute ++ ("><span id=\"".toList ++ (number ++
        ("\"><a href=\"#".toList ++ (number ++ ("\">".toList ++ (number ++
          ("</a></span> ".toList ++ (title ++ ("</h".toList ++
            (Text.ofInt level ++ ">\n".toList)))))))))))) ∧
      '<' ∉ idAttribute ∧ '\n' ∉ idAttribute ∧ isTame title = true ∧ cites title = cites text := by
  unfold Hook.headingMarkup
  cases found : Heading.marked? text with
  | none =>
    refine ⟨[], text, ?_, by decide, by decide, isTame_of_plain plain, rfl⟩
    simp only [List.append_assoc]
  | some marked =>
    obtain ⟨visible, behind, -, oneLine, -, -⟩ := Heading.marked?_spells found
    obtain ⟨inIdentifier, inText⟩ := subset_of_marked? found
    have plainIdentifier : '<' ∉ marked.identifier := fun member => plain (inIdentifier member)
    have plainText : '<' ∉ marked.text := fun member => plain (inText member)
    refine ⟨" id=\"".toList ++ marked.identifier ++ ['"'],
      "<a href=\"#".toList ++ marked.identifier ++ "\">".toList ++ marked.text ++ "</a>".toList,
      ?_, ?_, ?_, ?_, ?_⟩
    · simp only [List.append_assoc]
    · simp only [List.mem_append, not_or]
      exact ⟨⟨by decide, plainIdentifier⟩, by decide⟩
    · simp only [List.mem_append, not_or]
      exact ⟨⟨by decide, oneLine⟩, by decide⟩
    · refine isTame_append (isTame_append (isTame_append (isTame_append (by decide) ?_) ?_) ?_) ?_
      · exact isTame_of_plain plainIdentifier
      · decide
      · exact isTame_of_plain plainText
      · decide
    · have tail : cites "</a>".toList = false := by decide
      rw [← cites_marked found, cites_append_of_head? (by decide), tail, Bool.or_false,
        List.append_assoc, List.append_assoc, cites_oneLine_append (by decide),
        cites_oneLine_append oneLine, cites_oneLine_append (by decide)]

theorem plain_ofInt (number : Int) : '<' ∉ Text.ofInt number ∧ '\n' ∉ Text.ofInt number := by
  constructor
  · intro member
    exact absurd (Text.isDigit_of_mem_ofInt member) (by decide)
  · intro member
    exact absurd (Text.isDigit_of_mem_ofInt member) (by decide)

/-- A heading number is written with minus signs, digits and dots. -/
theorem of_mem_headingNumber {state : RenderState} {level : Int} {c : Char}
    (member : c ∈ state.headingNumber level) : (c = '-' ∨ c.isDigit = true) ∨ c = '.' := by
  have part {number : Int} (inside : c ∈ Text.ofInt number) :
      (c = '-' ∨ c.isDigit = true) ∨ c = '.' := Or.inl (Text.isDigit_of_mem_ofInt inside)
  have dot (inside : c ∈ ['.']) : (c = '-' ∨ c.isDigit = true) ∨ c = '.' :=
    Or.inr (List.mem_singleton.mp inside)
  unfold RenderState.headingNumber at member
  dsimp only at member
  split_ifs at member
  · exact part member
  · rcases List.mem_append.mp member with front | inside
    · exact (List.mem_append.mp front).elim part dot
    · exact part inside
  · rcases List.mem_append.mp member with front | inside
    · rcases List.mem_append.mp front with front | inside
      · rcases List.mem_append.mp front with front | inside
        · exact (List.mem_append.mp front).elim part dot
        · exact part inside
      · exact dot inside
    · exact part inside

theorem plain_headingNumber (state : RenderState) (level : Int) :
    '<' ∉ state.headingNumber level ∧ '\n' ∉ state.headingNumber level :=
  ⟨fun member => absurd (of_mem_headingNumber member) (by decide),
    fun member => absurd (of_mem_headingNumber member) (by decide)⟩

/-- A heading is tame and has the citation of its text. -/
theorem outlineOf_headingMarkup {number : Text} (plainNumber : '<' ∉ number ∧ '\n' ∉ number)
    (level : Int) {text : Text} (plain : '<' ∉ text) :
    outlineOf (Hook.headingMarkup number level text) = Outline.ofCitation (cites text) := by
  obtain ⟨idAttribute, title, spelled, plainId, lineId, tameTitle, citesTitle⟩ :=
    headingMarkup_spells number level plain
  obtain ⟨plainLevel, lineLevel⟩ := plain_ofInt level
  have tameNumber := isTame_of_plain plainNumber.1
  have tameLevel := isTame_of_plain plainLevel
  have tame : isTame (Hook.headingMarkup number level text) = true := by
    rw [spelled]
    repeat' with_reducible apply isTame_append
    all_goals first
      | exact tameLevel
      | exact tameNumber
      | exact tameTitle
      | exact isTame_of_plain plainId
      | decide
  have citesIt : cites (Hook.headingMarkup number level text) = cites text := by
    have start : cites "\n<h".toList = false := by decide
    have last : cites ">\n".toList = false := by decide
    rw [spelled, cites_append_of_getLast? (by decide), start, Bool.false_or,
      cites_oneLine_append lineLevel, cites_oneLine_append lineId,
      cites_oneLine_append (by decide), cites_oneLine_append plainNumber.2,
      cites_oneLine_append (by decide), cites_oneLine_append plainNumber.2,
      cites_oneLine_append (by decide), cites_oneLine_append plainNumber.2,
      cites_oneLine_append (by decide), cites_append_separated (by decide) (by decide), citesTitle,
      cites_oneLine_append lineLevel, last, Bool.or_false]
  rw [outlineOf_tame tame, citesIt]

/-! ### Notes and paragraphs -/

theorem isNote_spells {text : Text} (note : Footnote.isNote text = true) : ∃ label body,
    text = "[^".toList ++ (label ++ ("]:".toList ++ body)) ∧
      Footnote.interpolateNote text = Footnote.renderNote label body := by
  obtain ⟨⟨label, body⟩, found⟩ := Option.isSome_iff_exists.mp note
  refine ⟨label, body, Footnote.note?_spells found, ?_⟩
  unfold Footnote.interpolateNote
  rw [found]

theorem isTame_renderNote {label body : Text} (plainLabel : '<' ∉ label) (plainBody : '<' ∉ body) :
    isTame (Footnote.renderNote label body) = true := by
  have tameLabel := isTame_of_plain plainLabel
  unfold Footnote.renderNote Footnote.superscript Footnote.noteId Footnote.markId
  repeat' with_reducible apply isTame_append
  all_goals first
    | exact tameLabel
    | exact isTame_of_plain plainBody
    | decide

theorem cites_renderNote (label body : Text) :
    cites (Footnote.renderNote label body) = (cites label || cites body) := by
  unfold Footnote.renderNote Footnote.superscript Footnote.noteId Footnote.markId
  simp only [List.append_assoc]
  rw [cites_oneLine_append (by decide), cites_oneLine_append (by decide),
    cites_oneLine_append (by decide), cites_append_separated (by decide) (by decide),
    cites_oneLine_append (by decide), cites_append_separated (by decide) (by decide),
    cites_oneLine_append (by decide), cites_append_separated (by decide) (by decide),
    cites_append_separated (by decide) (by decide)]
  cases cites label <;> rfl

/-- Text without tags is no block yet. -/
theorem isRawBlock_eq_false {text : Text} (plain : '<' ∉ text) : Hook.isRawBlock text = false := by
  have noTag : ((Text.trim text).head? == some '<') = false := beq_eq_false_iff_ne.mpr fun first =>
    plain ((Text.trim_inside text).subset (List.mem_of_head? first))
  unfold Hook.isRawBlock
  dsimp only
  rw [noTag, Bool.false_and]

theorem paragraphMarkup_of_note {text : Text} (plain : '<' ∉ text)
    (note : Footnote.isNote text = true) : Hook.paragraphMarkup text =
      "<span class=\"footnote\">".toList ++
        (Footnote.interpolateNote text ++ "</span>\n".toList) := by
  unfold Hook.paragraphMarkup
  rw [isRawBlock_eq_false plain, note]
  simp only [Bool.false_eq_true, if_false, if_true, List.append_assoc]

theorem paragraphMarkup_of_plain {text : Text} (plain : '<' ∉ text)
    (noNote : Footnote.isNote text = false) :
    Hook.paragraphMarkup text = "<p>".toList ++ (text ++ (stop ++ ['\n'])) := by
  have last : "</p>\n".toList = stop ++ ['\n'] := by decide
  unfold Hook.paragraphMarkup
  rw [isRawBlock_eq_false plain, noNote]
  simp only [Bool.false_eq_true, if_false, List.append_assoc, last]

/-- A note is tame and has the citation of its text. -/
theorem isTame_and_cites_note {text : Text} (plain : '<' ∉ text)
    (note : Footnote.isNote text = true) :
    isTame (Hook.paragraphMarkup text) = true ∧
      cites (Hook.paragraphMarkup text) = cites text := by
  obtain ⟨label, body, spelled, rendered⟩ := isNote_spells note
  have plainLabel : '<' ∉ label := by
    rw [spelled] at plain
    simp only [List.mem_append, not_or] at plain
    exact plain.2.1
  have plainBody : '<' ∉ body := by
    rw [spelled] at plain
    simp only [List.mem_append, not_or] at plain
    exact plain.2.2.2
  have last : cites "</span>\n".toList = false := by decide
  have citesText : cites text = (cites label || cites body) := by
    rw [spelled, cites_oneLine_append (by decide), cites_append_separated (by decide) (by decide)]
  rw [paragraphMarkup_of_note plain note, rendered]
  constructor
  · exact isTame_append (by decide)
      (isTame_append (isTame_renderNote plainLabel plainBody) (by decide))
  · rw [cites_oneLine_append (by decide), cites_append_of_head? (by decide), cites_renderNote, last,
      Bool.or_false, citesText]

theorem outlineOf_note {text : Text} (plain : '<' ∉ text) (note : Footnote.isNote text = true) :
    outlineOf (Hook.paragraphMarkup text) = Outline.ofCitation (cites text) := by
  obtain ⟨tame, same⟩ := isTame_and_cites_note plain note
  rw [outlineOf_tame tame, same]

/-- What a paragraph contributes to outlines. Its marker is lost in a quote if nothing but blanks
stands in front of its citation. -/
def paragraphOutline (marker : Option GroupMarker) (text : Text) : Outline :=
  if Footnote.isNote text then Outline.ofMarker marker ++ Outline.ofCitation (cites text)
  else
    match Text.breakOnLast Quote.citationMarker text with
    | some (before, _) =>
      ⟨true, if before.all isBlank then [] else marker.toList, true, marker.toList⟩
    | none => ⟨false, marker.toList, true, marker.toList⟩

theorem all_paragraphOutline (marker : Option GroupMarker) (text : Text) :
    (paragraphOutline marker text).all = marker.toList := by
  unfold paragraphOutline
  split
  · exact (Outline.all_append _ _).trans (List.append_nil _)
  · split <;> rfl

theorem cited_paragraphOutline (marker : Option GroupMarker) (text : Text) :
    (paragraphOutline marker text).cited = cites text := by
  unfold paragraphOutline
  split
  · exact (Outline.cited_append _ _).trans (Bool.false_or _)
  · split
    · next before behind broken =>
      have cited : cites text ≠ false := by
        rw [Ne, cites_eq_false_iff, broken]
        exact Option.some_ne_none _
      exact (Bool.of_not_eq_false cited).symm
    · next broken => exact (cites_eq_false_iff.mpr broken).symm

/-- Text without tags behind a tag ends in none. -/
theorem not_tag_suffix_append {tag left text : Text} (opens : '<' ∈ tag)
    (within : '>' ∉ tag.dropLast) (ends : left.getLast? = some '>') (nonempty : text ≠ [])
    (plain : '<' ∉ text) : ¬ tag <:+ left ++ text := by
  rintro ⟨front, equal⟩
  rcases List.append_eq_append_iff.mp equal with ⟨more, inLeft, inTag⟩ | ⟨more, -, inText⟩
  · by_cases whole : more = []
    · rw [whole, List.nil_append] at inTag
      exact plain (inTag ▸ opens)
    · rw [inLeft, List.getLast?_append_of_ne_nil _ whole] at ends
      refine within ?_
      rw [inTag, List.dropLast_append_of_ne_nil nonempty]
      exact List.mem_append_left _ (List.mem_of_getLast? ends)
  · refine plain ?_
    rw [inText]
    exact List.mem_append_right _ opens

/-- A plain paragraph ends in a start tag up to blanks only in front of its text. -/
theorem endsBare_paragraph {marker : Option GroupMarker} {before : Text} (plain : '<' ∉ before)
    (visible : before.all isBlank = false) :
    endsBare (markerHtml marker ++ "<p>".toList ++ before) = false := by
  rw [← Bool.not_eq_true, endsBare_iff_suffix]
  rintro ⟨first, isSuffix⟩
  obtain ⟨trimmed, nonempty⟩ := Text.trimEnd_append visible (markerHtml marker ++ "<p>".toList)
  rw [trimmed] at isSuffix
  refine not_tag_suffix_append (by decide) (by decide)
    (List.getLast?_append_of_ne_nil _ (by decide)) nonempty ?_
    ((List.suffix_append _ _).trans isSuffix)
  exact fun member => plain ((Text.dropEndWhile_starts isBlank before).subset member)

theorem keptMarks_paragraph (marker : Option GroupMarker) {before : Text} (plain : '<' ∉ before) :
    keptMarks (markerHtml marker ++ "<p>".toList ++ before) =
      if before.all isBlank then [] else marker.toList := by
  have all : marks (markerHtml marker ++ "<p>".toList ++ before) = marker.toList := by
    have ends : (markerHtml marker ++ "<p>".toList).getLast? = some '>' :=
      List.getLast?_append_of_ne_nil _ (by decide)
    rw [marks_append_of_getLast? ends, marks_plain plain, List.append_nil,
      marks_append_mute (by decide) (by decide), marks_markerHtml]
  rw [keptMarks, all]
  cases blank : before.all isBlank with
  | false =>
    rw [endsBare_paragraph plain blank, if_neg Bool.false_ne_true, if_neg Bool.false_ne_true]
  | true =>
    rw [if_pos rfl]
    cases marker with
    | none => split <;> rfl
    | some marker =>
      have bare : endsBare (markerHtml (some marker) ++ "<p>".toList ++ before) = true :=
        endsBare_iff.mpr ⟨marker, [], before, List.all_eq_true.mp blank, rfl⟩
      rw [bare]
      rfl

theorem marks_paragraph (marker : Option GroupMarker) {text : Text} (plain : '<' ∉ text)
    (rest : Text) :
    marks (markerHtml marker ++ ("<p>".toList ++ (text ++ rest))) =
      marker.toList ++ marks rest := by
  have starts : ∀ first ∈ ("<p>".toList ++ (text ++ rest)).head?, first = '<' ∨ first = '\n' :=
    fun first inHead => Or.inl (Option.some.inj inHead).symm
  rw [marks_append_of_head? starts, marks_markerHtml, marks_mute_append (by decide) (by decide),
    marks_plain_append plain]

/-- The outline of a plain paragraph with its marker. -/
theorem outlineOf_plain_paragraph (marker : Option GroupMarker) {text : Text} (plain : '<' ∉ text) :
    outlineOf (markerHtml marker ++ ("<p>".toList ++ (text ++ (stop ++ ['\n'])))) =
      match Text.breakOnLast Quote.citationMarker text with
      | some (before, _) =>
        ⟨true, if before.all isBlank then [] else marker.toList, true, marker.toList⟩
      | none => ⟨false, marker.toList, true, marker.toList⟩ := by
  have noMarks : marks (stop ++ ['\n']) = [] := by decide
  have starts : StartsBlock (stop ++ ['\n']) := Or.inr (Or.inl rfl)
  have apart := apart_citation_of_startsBlock starts text
  have all := marks_paragraph marker plain (stop ++ ['\n'])
  rw [noMarks, List.append_nil] at all
  have html : markerHtml marker ++ ("<p>".toList ++ (text ++ (stop ++ ['\n']))) =
      markerHtml marker ++ ("<p>".toList ++ text) ++ (stop ++ ['\n']) := by
    simp only [List.append_assoc]
  cases broken : Text.breakOnLast Quote.citationMarker text with
  | some parts =>
    obtain ⟨before, behind⟩ := parts
    have spelled := Text.breakOnLast_spells broken
    have plainBefore : '<' ∉ before := fun member => plain (by
      rw [spelled]
      exact List.mem_append_left _ (List.mem_append_left _ member))
    have plainBehind : '<' ∉ behind := fun member => plain (by
      rw [spelled]
      exact List.mem_append_right _ member)
    have inText := Text.breakOnLast_append_of_none citationMarker_ne_nil apart (by decide)
    rw [broken] at inText
    have found := Text.breakOnLast_append_of_some (markerHtml marker ++ "<p>".toList) inText
    rw [List.append_assoc] at found
    rw [outlineOf_of_breakOnLast found, keptMarks_paragraph marker plainBefore, all,
      beforeParagraphEnd_append_stop, beforeParagraphEnd_of_not_hasStop (hasStop_plain plainBehind),
      marks_plain plainBehind, List.append_nil, hasStop_append_stop]
  | none =>
    have oneLine : '\n' ∉ markerHtml marker := by
      cases marker with
      | none => decide
      | some marker => cases marker <;> decide
    have last : cites (stop ++ ['\n']) = false := by decide
    have uncited : Text.breakOnLast Quote.citationMarker
        (markerHtml marker ++ ("<p>".toList ++ (text ++ (stop ++ ['\n'])))) = none := by
      rw [← cites_eq_false_iff] at broken ⊢
      rw [cites_oneLine_append oneLine, cites_oneLine_append (by decide), cites,
        Text.occursIn_append apart, ← cites, ← cites, broken, last]
      rfl
    have noStop : hasStop (markerHtml marker ++ ("<p>".toList ++ text)) = false := by
      have inMarker : hasStop (markerHtml marker) = false := by
        cases marker with
        | none => decide
        | some marker => cases marker <;> decide
      have inStart : hasStop "<p>".toList = false := by decide
      have apartStart : Text.Apart stop "<p>".toList text := Or.inl (by decide)
      rw [hasStop_append (apart_stop_of_startsBlock (Or.inr (Or.inl rfl)) _), inMarker,
        hasStop_append apartStart, inStart, hasStop_plain plain]
      rfl
    have noMarksBehind : marks ([] : Text) = [] := rfl
    have inner := marks_paragraph marker plain []
    rw [List.append_nil, noMarksBehind, List.append_nil] at inner
    rw [outlineOf_of_uncited uncited, all, html, beforeParagraphEnd_append_stop,
      beforeParagraphEnd_of_not_hasStop noStop, inner, hasStop_append_stop]

/-- The outline of a paragraph with its marker. -/
theorem outlineOf_paragraph (marker : Option GroupMarker) {text : Text} (plain : '<' ∉ text) :
    outlineOf (markerHtml marker ++ Hook.paragraphMarkup text) = paragraphOutline marker text := by
  unfold paragraphOutline
  cases note : Footnote.isNote text with
  | true =>
    have joint : Joint (markerHtml marker) (Hook.paragraphMarkup text) := by
      rw [paragraphMarkup_of_note plain note]
      exact joint_of_second rfl (by decide)
    rw [outlineOf_append joint, outlineOf_markerHtml, outlineOf_note plain note, if_pos rfl]
  | false =>
    rw [paragraphMarkup_of_plain plain note, outlineOf_plain_paragraph marker plain,
      if_neg Bool.false_ne_true]

end Group

end BookMarkup
