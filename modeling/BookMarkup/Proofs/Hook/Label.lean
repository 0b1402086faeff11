/-
This file proves when the labels of footnotes and the identifiers of headings stay in the
attributes that they are written into. Running text is escaped as element content, where
quotes are left alone, and labels and identifiers come from running text. So each tag with
a label or an identifier is read as it was written exactly if the author typed no quote
there. The numbers of headings hold no quotes, so their tags are always intact.
-/

import BookMarkup.Hook.Call
import BookMarkup.Proofs.Footnote.Link
import BookMarkup.Proofs.Group.Leaf

namespace BookMarkup

namespace Hook

open Html

/-! ### The tags -/

/-- The tags of a heading that hold its identifier: that of its element and that of the link
around its text. -/
def identifierTags (level : Int) (identifier : Text) : PlainTag × PlainTag :=
  (⟨'h' :: Text.ofInt level, [("id".toList, identifier)]⟩,
    ⟨"a".toList, [("href".toList, '#' :: identifier)]⟩)

/-- The tags around the number of a heading. -/
def numberTags (number : Text) : List PlainTag :=
  [⟨"span".toList, [("id".toList, number)]⟩, ⟨"a".toList, [("href".toList, '#' :: number)]⟩]

/-! ### What is written -/

theorem textMarkup_label {label : Text} (nonempty : label ≠ []) (closed : ']' ∉ label) :
    textMarkup ("[^".toList ++ (label ++ "]".toList)) =
      Footnote.renderMark (Footnote.shownLabel label []) := by
  obtain ⟨front, behind, joined, atFront, atEnd⟩ :=
    Footnote.joinLastWords_escapeContent [] label []
  have noFront : front = [] := by rcases atFront with rfl | rfl <;> rfl
  have noEnd : behind = [] := by rcases atEnd with rfl | rfl <;> rfl
  obtain ⟨some', closed'⟩ := Footnote.shownLabel_isLabel nonempty closed []
  have spelled : "[^".toList ++ (label ++ "]".toList) =
      [] ++ (Footnote.bracket ++ (label ++ ([']'] ++ []))) := rfl
  have marked : Footnote.interpolateMarks
      ([] ++ (Footnote.bracket ++ (Footnote.shownLabel label [] ++ (']' :: [])))) =
        [] ++ (Footnote.renderMark (Footnote.shownLabel label []) ++ []) :=
    Footnote.interpolateMarks_mark (by decide) some' closed' (by decide) (by decide)
  rw [textMarkup, spelled, joined, noFront, noEnd, marked]
  exact List.append_nil _

/-- The tags of a mark hold its label as it is shown. -/
theorem result_text_label (setting : Setting) (state : RenderState) {label : Text}
    (nonempty : label ≠ []) (closed : ']' ∉ label) :
    ((Call.text ("[^".toList ++ (label ++ "]".toList))).run setting state).result =
      .ok (writeTags (markTags (Footnote.shownLabel label [])) ++
        (Footnote.shownLabel label [] ++ "</a></sup>".toList)) := by
  have written := textMarkup_label nonempty closed
  rw [Footnote.renderMark, superscript_eq] at written
  exact congrArg Except.ok written

/-- A marker behind a title on one line is read as a whole. -/
theorem marked?_append {title identifier : Text} (noBrace : '{' ∉ title) (oneLine : '\n' ∉ title)
    (nonempty : identifier ≠ []) (inLine : '\n' ∉ identifier) :
    Heading.marked? (title ++ (['{', '#'] ++ (identifier ++ ['}']))) =
      some ⟨identifier, Text.trimEnd ((Text.before? noBreakSpace title).getD title)⟩ :=
  Heading.marked?_of_first [] title identifier (fun _ inLast => absurd inLast (by simp)) oneLine
    (fun inside => noBrace (inside.subset List.mem_cons_self)) nonempty inLine

theorem headingMarkup_marked (number : Text) (level : Int) {text : Text} {marked : Heading.Marked}
    (found : Heading.marked? text = some marked) :
    headingMarkup number level text =
      ['\n'] ++ ((identifierTags level marked.identifier).1.write ++
        (writeTags (numberTags number) ++ (number ++ ("</a></span> ".toList ++
          ((identifierTags level marked.identifier).2.write ++ (marked.text ++
            ("</a></h".toList ++ (Text.ofInt level ++ ">\n".toList)))))))) := by
  unfold headingMarkup
  rw [found]
  simp only [writeTags, numberTags, identifierTags, List.flatMap_cons, List.flatMap_nil,
    PlainTag.write, writeAttributes, writeAttribute, List.append_assoc, List.cons_append,
    List.nil_append]
  rfl

/-! ### Quotes in the tags -/

theorem quote_mem_shownLabel (label behind : Text) :
    '"' ∈ Footnote.shownLabel label behind ↔ '"' ∈ label := by
  have escaped : '"' ∈ escapeContent label ↔ '"' ∈ label := mem_escapeContent (by decide)
  unfold Footnote.shownLabel
  split_ifs
  · exact escaped
  · exact (Footnote.mem_joinLastSpace_iff (by decide) (by decide)).trans escaped

variable {tag : PlainTag}

theorem isNamed_link (target : Text) :
    (PlainTag.mk "a".toList [("href".toList, target)]).IsNamed := by
  refine ⟨⟨'a', rfl, rfl⟩, rfl, ?_⟩
  show ∀ name ∈ ["href".toList], _
  decide

theorem isNamed_superscriptTags (role label own other : Text) :
    ∀ tag ∈ superscriptTags role label own other, tag.IsNamed := by
  refine List.forall_mem_cons.mpr ⟨?_, List.forall_mem_singleton.mpr (isNamed_link _)⟩
  refine ⟨⟨'s', rfl, rfl⟩, rfl, ?_⟩
  show ∀ name ∈ ["class".toList, "data-number".toList, "id".toList], _
  decide

/-- The values of a superscript hold a quote exactly if its label does. -/
theorem isQuoteFree_superscriptTags_iff {role label own other : Text} (plain : '"' ∉ role)
    (inOwn : '"' ∈ own ↔ '"' ∈ label) (inOther : '"' ∈ other ↔ '"' ∈ label) :
    ∀ tag ∈ superscriptTags role label own other, tag.IsQuoteFree ↔ '"' ∉ label := by
  refine List.forall_mem_cons.mpr ⟨?_, List.forall_mem_singleton.mpr ?_⟩
  · simp [PlainTag.IsQuoteFree, plain, inOwn]
  · simp [PlainTag.IsQuoteFree, inOther]

theorem isNamed_identifierTags (level : Int) (identifier : Text) :
    (identifierTags level identifier).1.IsNamed ∧ (identifierTags level identifier).2.IsNamed := by
  have inName : ('h' :: Text.ofInt level).all (fun c => !endsName c) = true := by
    rw [List.all_cons, Bool.and_eq_true]
    refine ⟨by decide, List.all_eq_true.mpr fun c member => ?_⟩
    rw [Bool.not_eq_true', Bool.eq_false_iff]
    intro ends
    simp only [endsName, isTagBlank, Bool.or_eq_true, beq_iff_eq] at ends
    have written := Text.isDigit_of_mem_ofInt member
    rcases ends with (((((rfl | rfl) | rfl) | rfl) | rfl) | rfl) | rfl <;>
      exact absurd written (by decide)
  refine ⟨⟨⟨'h', rfl, rfl⟩, inName, ?_⟩, isNamed_link _⟩
  show ∀ name ∈ ["id".toList], _
  decide

theorem isNamed_numberTags (number : Text) : ∀ tag ∈ numberTags number, tag.IsNamed := by
  refine List.forall_mem_cons.mpr ⟨?_, List.forall_mem_singleton.mpr (isNamed_link _)⟩
  refine ⟨⟨'s', rfl, rfl⟩, rfl, ?_⟩
  show ∀ name ∈ ["id".toList], _
  decide

theorem isQuoteFree_numberTags {number : Text} (plain : '"' ∉ number) :
    ∀ tag ∈ numberTags number, tag.IsQuoteFree := by
  refine List.forall_mem_cons.mpr ⟨?_, List.forall_mem_singleton.mpr ?_⟩
  · simp [PlainTag.IsQuoteFree, plain]
  · simp [PlainTag.IsQuoteFree, plain]

/-- Whether a tag holds a quote in a value, and is then not read as it was written, exactly if some
text that authors type holds one. -/
def TakesQuotesFrom (tag : PlainTag) (source : Text) : Prop :=
  (tag.IsQuoteFree ↔ '"' ∉ source) ∧ (tag.IsReadBack ↔ '"' ∉ source)

theorem takesQuotesFrom_of_named {source : Text} (named : tag.IsNamed)
    (free : tag.IsQuoteFree ↔ '"' ∉ source) : TakesQuotesFrom tag source :=
  ⟨free, (PlainTag.isReadBack_iff named).trans free⟩

theorem takesQuotesFrom_superscriptTags {role label : Text} (plain : '"' ∉ role)
    (own other behind : Text) (plainOwn : '"' ∉ own) (plainOther : '"' ∉ other) :
    let shown := Footnote.shownLabel label behind
    ∀ tag ∈ superscriptTags role shown (own ++ shown) (other ++ shown),
      TakesQuotesFrom tag label := by
  intro shown tag member
  refine takesQuotesFrom_of_named (isNamed_superscriptTags _ _ _ _ tag member) ?_
  rw [isQuoteFree_superscriptTags_iff plain (by simp [plainOwn]) (by simp [plainOther]) tag member,
    quote_mem_shownLabel]

theorem takesQuotesFrom_identifierTags (level : Int) (identifier : Text) :
    TakesQuotesFrom (identifierTags level identifier).1 identifier ∧
      TakesQuotesFrom (identifierTags level identifier).2 identifier := by
  obtain ⟨element, link⟩ := isNamed_identifierTags level identifier
  refine ⟨takesQuotesFrom_of_named element ?_, takesQuotesFrom_of_named link ?_⟩
  · simp [PlainTag.IsQuoteFree, identifierTags]
  · simp [PlainTag.IsQuoteFree, identifierTags]

/-! ### Labels and identifiers -/

/-- The mark and the note of a label and the heading with an identifier are written with tags that
a browser reads as they were written exactly if the label or the identifier holds no quote; and
exactly then no value of an attribute holds one. The tags of the heading's number are always read
as they were written. -/
theorem labels_and_identifiers_stay_inside_iff (setting : Setting) (state : RenderState) :
    (∀ label, label ≠ [] → ']' ∉ label →
      let shown := Footnote.shownLabel label []
      ((Call.text ("[^".toList ++ (label ++ "]".toList))).run setting state).result =
        .ok (writeTags (markTags shown) ++ (shown ++ "</a></sup>".toList)) ∧
      ∀ tag ∈ markTags shown, TakesQuotesFrom tag label) ∧
    (∀ label body, label ≠ [] → ']' ∉ label →
      let shown := Footnote.shownLabel label body
      ∃ run rest,
        ((Call.text ("[^".toList ++ (label ++ ("]:".toList ++ body)))).run setting state).result =
          .ok run ∧
        (∀ later : RenderState, ((Call.paragraph run).run setting later).result =
          .ok (markerHtml (later.enter .paragraph none).1 ++ ("<span class=\"footnote\">".toList ++
            (writeTags (noteTags shown) ++ (shown ++ ("</a></sup>".toList ++
              (rest ++ "</span>\n".toList))))))) ∧
        ∀ tag ∈ noteTags shown, TakesQuotesFrom tag label) ∧
    ∀ title identifier level, '{' ∉ title → '\n' ∉ title → identifier ≠ [] → '\n' ∉ identifier →
      let tags := identifierTags level identifier
      let number := (state.enter .heading (some level)).2.headingNumber level
      (∃ shown, ((Call.heading (title ++ (['{', '#'] ++ (identifier ++ ['}']))) level).run setting
          state).result =
        .ok (markerHtml (state.enter .heading (some level)).1 ++ (['\n'] ++ (tags.1.write ++
          (writeTags (numberTags number) ++ (number ++ ("</a></span> ".toList ++ (tags.2.write ++
            (shown ++ ("</a></h".toList ++ (Text.ofInt level ++ ">\n".toList))))))))))) ∧
      TakesQuotesFrom tags.1 identifier ∧ TakesQuotesFrom tags.2 identifier ∧
      ∀ tag ∈ numberTags number, tag.IsQuoteFree ∧ tag.IsReadBack := by
  refine ⟨fun label nonempty closed => ⟨result_text_label setting state nonempty closed, ?_⟩,
    fun label body nonempty closed => ?_,
    fun title identifier level noBrace oneLine nonempty inLine => ?_⟩
  · exact takesQuotesFrom_superscriptTags (by decide) "footnote-reference:".toList
      "footnote:".toList [] (by decide) (by decide)
  · obtain ⟨rest, noted⟩ := Footnote.textMarkup_note nonempty closed body
    obtain ⟨some', closed'⟩ := Footnote.shownLabel_isLabel nonempty closed body
    have written := Footnote.paragraphMarkup_note some' closed' rest
    rw [Footnote.renderNote, superscript_eq] at written
    simp only [List.append_assoc] at written
    refine ⟨_, rest, congrArg Except.ok noted, fun later => ?_, ?_⟩
    · exact congrArg
        (fun markup => Except.ok (markerHtml (later.enter .paragraph none).1 ++ markup)) written
    · exact takesQuotesFrom_superscriptTags (by decide) "footnote:".toList
        "footnote-reference:".toList body (by decide) (by decide)
  · intro tags number
    obtain ⟨element, link⟩ := takesQuotesFrom_identifierTags level identifier
    have plain : '"' ∉ number := fun member =>
      absurd (Group.of_mem_headingNumber member) (by decide)
    have written := headingMarkup_marked number level
      (marked?_append noBrace oneLine nonempty inLine)
    refine ⟨⟨_, congrArg
        (fun markup => Except.ok (markerHtml (state.enter .heading (some level)).1 ++ markup))
        written⟩, element, link, fun tag member => ?_⟩
    have free := isQuoteFree_numberTags plain tag member
    exact ⟨free, (PlainTag.isReadBack_iff (isNamed_numberTags number tag member)).mpr free⟩

/-- Without quotes, a label with a space and an identifier stay in their attributes. -/
theorem plain_label_and_identifier_stay_inside :
    let setting : Setting := ⟨{}, .ofFiles []⟩
    (((Call.text "[^note 1]".toList).run setting (.fresh 1)).result =
        .ok (writeTags (markTags "note&nbsp;1".toList) ++ "note&nbsp;1</a></sup>".toList) ∧
      ∀ tag ∈ markTags "note&nbsp;1".toList, tag.IsQuoteFree ∧ tag.IsReadBack) ∧
    (∃ run, ((Call.text "[^note 1]: See".toList).run setting (.fresh 1)).result = .ok run ∧
      ∀ tag ∈ noteTags "note 1".toList, tag.IsQuoteFree ∧ tag.IsReadBack) ∧
    (identifierTags 2 "start".toList).1.IsReadBack ∧
      (identifierTags 2 "start".toList).2.IsReadBack := by
  intro setting
  obtain ⟨marks, notes, headings⟩ := labels_and_identifiers_stay_inside_iff setting (.fresh 1)
  obtain ⟨marked, markTags⟩ := marks "note 1".toList (by decide) (by decide)
  obtain ⟨run, -, noted, -, noteTags⟩ := notes "note 1".toList " See".toList (by decide) (by decide)
  obtain ⟨-, element, link, -⟩ :=
    headings "Title ".toList "start".toList 2 (by decide) (by decide) (by decide) (by decide)
  have free : '"' ∉ "note 1".toList := by decide
  have plain : '"' ∉ "start".toList := by decide
  exact ⟨⟨marked, fun tag member =>
      ⟨(markTags tag member).1.mpr free, (markTags tag member).2.mpr free⟩⟩,
    ⟨run, noted, fun tag member =>
      ⟨(noteTags tag member).1.mpr free, (noteTags tag member).2.mpr free⟩⟩,
    element.2.mpr plain, link.2.mpr plain⟩

/-- A quote in a label ends the attribute of the mark and starts another one. -/
theorem label_may_add_attribute :
    let setting : Setting := ⟨{}, .ofFiles []⟩
    let label := "1\"/onclick=\"f()".toList
    let html := writeTags (markTags label) ++ (label ++ "</a></sup>".toList)
    (label ≠ [] ∧ ']' ∉ label ∧ '<' ∉ label ∧ '>' ∉ label) ∧
      ((Call.text ("[^".toList ++ (label ++ "]".toList))).run setting (.fresh 1)).result =
        .ok html ∧
      ¬ (∀ tag ∈ markTags label, tag.IsQuoteFree) ∧
      (readTag? html).map Prod.fst = some ⟨"sup".toList,
        [("class".toList, some "footnote-mark".toList), ("data-number".toList, some "1".toList),
          ("onclick".toList, some "f()".toList), ("id".toList, some "footnote-reference:1".toList),
          ("onclick".toList, some "f()".toList)], false⟩ := by
  intro setting label html
  have isLabel : label ≠ [] ∧ ']' ∉ label ∧ '<' ∉ label ∧ '>' ∉ label := by decide
  have shown : Footnote.shownLabel label [] = label := by decide
  have written := result_text_label setting (.fresh 1) isLabel.1 isLabel.2.1
  rw [shown] at written
  have quoted : '"' ∈ label := by decide
  refine ⟨isLabel, written, fun free => ?_, by decide +kernel⟩
  exact free _ List.mem_cons_self ("data-number".toList, label)
    (List.mem_cons_of_mem _ List.mem_cons_self) quoted

end Hook

end BookMarkup
