/-
This file proves that the group markers of a rendered document are those that its trees
call for. The induction over the trees carries three facts about what is rendered: it
starts with a tag, it ends in a tag and a line end, so that no tag is made or broken where
pieces meet, and its outline is the outline of the trees. A fourth fact is about the state:
a group is open exactly if the last block is a paragraph.
-/

import BookMarkup.Proofs.Group.Quote
import BookMarkup.Proofs.Group.Tree

namespace BookMarkup

namespace Group

/-! ### The state -/

/-- Whether a state has a group open, as it should behind a paragraph and nowhere else. -/
structure Grouped (state : RenderState) (isOpen : Bool) : Prop where
  groupOpen : state.groupOpen = isOpen
  lastBlock : state.lastBlock = some .paragraph ↔ isOpen = true

theorem grouped_fresh (chapter : Int) : Grouped (.fresh chapter) false :=
  ⟨rfl, by simp [RenderState.fresh]⟩

theorem enter_paragraph {state : RenderState} {isOpen : Bool} (grouped : Grouped state isOpen) :
    (state.enter .paragraph none).1 = opening isOpen ∧
      Grouped (state.enter .paragraph none).2 true := by
  obtain ⟨groupOpen, lastBlock⟩ := grouped
  have marker : state.markerBefore .paragraph = opening isOpen := by
    cases isOpen with
    | true => exact if_pos (lastBlock.mpr rfl)
    | false => exact if_neg (mt lastBlock.mp Bool.false_ne_true)
  refine ⟨marker, ?_, by simp [RenderState.enter, RenderState.remember, Construct.isBlock]⟩
  show RenderState.openAfter state.groupOpen (state.markerBefore .paragraph) = true
  rw [marker, groupOpen]
  cases isOpen <;> rfl

theorem enter_block {state : RenderState} {isOpen : Bool} (groupOpen : state.groupOpen = isOpen)
    (construct : Construct) (block : construct.isBlock = true) (other : construct ≠ .paragraph)
    (level : Option Int) :
    (state.enter construct level).1 = closing isOpen ∧
      Grouped (state.enter construct level).2 false := by
  have marker : state.markerBefore construct = closing isOpen := by
    rw [RenderState.markerBefore, if_neg other, block, groupOpen, Bool.true_and]
    rfl
  refine ⟨marker, ?_, ?_⟩
  · show RenderState.openAfter state.groupOpen (state.markerBefore construct) = false
    rw [marker, groupOpen]
    cases isOpen <;> rfl
  · simp [RenderState.enter, RenderState.remember, block, other]

theorem enter_listItem {state : RenderState} {isOpen : Bool} (grouped : Grouped state isOpen) :
    (state.enter .listItem none).1 = none ∧ Grouped (state.enter .listItem none).2 isOpen := by
  rw [RenderState.enter_of_not_isBlock state .listItem none rfl]
  exact ⟨rfl, grouped.groupOpen, grouped.lastBlock⟩

/-! ### Blocks of markup -/

/-- Whether some markup ends in a line end behind a tag that is no start tag of a paragraph. -/
def EndsBlock (html : Text) : Prop :=
  ∃ front second last, html = front ++ [second, last, '>', '\n'] ∧ (second ≠ '<' ∨ last ≠ 'p')

theorem endsBlock_append (left : Text) {right : Text} (ends : EndsBlock right) :
    EndsBlock (left ++ right) := by
  obtain ⟨front, second, last, rfl, other⟩ := ends
  exact ⟨left ++ front, second, last, (List.append_assoc _ _ _).symm, other⟩

theorem not_start_suffix_of_endsBlock {html : Text} (ends : EndsBlock html) :
    ¬ "<p>".toList <:+ Text.trimEnd html := by
  obtain ⟨front, second, last, rfl, other⟩ := ends
  have spelled : front ++ [second, last, '>', '\n'] =
      front ++ [second, last] ++ ['>'] ++ ['\n'] := by
    simp only [List.append_assoc, List.cons_append, List.nil_append]
  rw [spelled, Text.trimEnd_append_blanks _ (by decide), Text.trimEnd_concat (by decide),
    List.append_assoc]
  intro isSuffix
  have tail : "<p>".toList <:+ [second, last] ++ ['>'] :=
    List.suffix_of_suffix_length_le isSuffix (List.suffix_append front _) (by simp)
  have equal := tail.eq_of_length (by simp)
  have letters := List.cons.inj equal
  rcases other with notTag | notName
  · exact notTag letters.1.symm
  · exact notName (List.cons.inj letters.2).1.symm

theorem getLast?_of_endsBlock {html : Text} (ends : EndsBlock html) :
    html.getLast? = some '\n' := by
  obtain ⟨front, second, last, rfl, -⟩ := ends
  exact List.getLast?_append_of_ne_nil front (List.cons_ne_nil _ _)

/-- A text that ends in a line end ends in no marker. -/
theorem not_marker_suffix {html : Text} (ends : html.getLast? = some '\n')
    (marker : GroupMarker) : ¬ marker.html <:+ html := by
  rintro ⟨before, rfl⟩
  rw [List.getLast?_append_of_ne_nil _ (marker_ne_nil marker), getLast?_marker] at ends
  exact absurd (Option.some.inj ends) (by decide)

/-- Whether some markup is a sequence of blocks with an outline. -/
structure Blocks (html : Text) (outline : Outline) : Prop where
  starts : StartsBlock html
  ends : html = [] ∨ EndsBlock html
  outline : outlineOf html = outline

theorem blocks_nil : Blocks [] .empty :=
  ⟨Or.inl rfl, Or.inl rfl, by decide⟩

theorem startsBlock_append {left right : Text} (starts : StartsBlock left)
    (next : left = [] → StartsBlock right) : StartsBlock (left ++ right) := by
  rcases starts with rfl | tag | ⟨rest, rfl⟩
  · exact next rfl
  · obtain ⟨rest, rfl⟩ := List.head?_eq_some_iff.mp tag
    exact Or.inr (Or.inl rfl)
  · exact Or.inr (Or.inr ⟨rest ++ right, rfl⟩)

theorem blocks_append {left right : Text} {first second : Outline} (before : Blocks left first)
    (behind : Blocks right second) : Blocks (left ++ right) (first ++ second) := by
  refine ⟨startsBlock_append before.starts fun _ => behind.starts, ?_, ?_⟩
  · rcases behind.ends with rfl | ends
    · rw [List.append_nil]
      exact before.ends
    · exact Or.inr (endsBlock_append left ends)
  · have joint : Joint left right := by
      refine ⟨behind.starts, fun _ marker isSuffix => ?_⟩
      rcases before.ends with rfl | ends
      · have empty := List.suffix_nil.mp isSuffix
        exact absurd empty (marker_ne_nil marker)
      · exact not_marker_suffix (getLast?_of_endsBlock ends) marker isSuffix
    rw [outlineOf_append joint, before.outline, behind.outline]

/-- A marker in front of blocks that start with no paragraph. -/
theorem blocks_marker (marker : Option GroupMarker) {html : Text} {outline : Outline}
    (blocks : Blocks html outline) (nonempty : html ≠ []) (other : ¬ "<p>".toList <+: html) :
    Blocks (markerHtml marker ++ html) (.ofMarker marker ++ outline) := by
  refine ⟨?_, Or.inr (endsBlock_append _ (blocks.ends.resolve_left nonempty)), ?_⟩
  · cases marker with
    | none => exact blocks.starts
    | some marker => cases marker <;> exact Or.inr (Or.inl rfl)
  · have joint : Joint (markerHtml marker) html := ⟨blocks.starts, fun tag => absurd tag other⟩
    rw [outlineOf_append joint, outlineOf_markerHtml, blocks.outline]

/-- Whether two texts can stand around blocks without a trace in outlines. -/
structure Wraps (front behind : Text) : Prop where
  starts : ∃ second rest, front = '<' :: second :: rest ∧ second ≠ 'p'
  tame : isTame front = true
  uncited : cites front = false
  noMarker : ∀ marker : GroupMarker, ¬ marker.html <:+ front
  endTag : ∃ rest, behind = '<' :: '/' :: rest
  tameEnd : isTame behind = true
  uncitedEnd : cites behind = false
  ends : EndsBlock behind

theorem blocks_wrap {front behind html : Text} {outline : Outline} (wraps : Wraps front behind)
    (content : Blocks html outline) : Blocks (front ++ (html ++ behind)) outline := by
  obtain ⟨second, rest, spelled, -⟩ := wraps.starts
  obtain ⟨last, spelledEnd⟩ := wraps.endTag
  have inner : Joint html behind := joint_of_second spelledEnd (by decide)
  have outer : Joint front (html ++ behind) :=
    ⟨startsBlock_append content.starts fun _ => inner.1, fun _ => wraps.noMarker⟩
  refine ⟨?_, Or.inr (endsBlock_append _ (endsBlock_append _ wraps.ends)), ?_⟩
  · rw [spelled]
    exact Or.inr (Or.inl rfl)
  · have noFront : outlineOf front = .empty := by
      rw [outlineOf_tame wraps.tame, wraps.uncited]
      rfl
    have noEnd : outlineOf behind = .empty := by
      rw [outlineOf_tame wraps.tameEnd, wraps.uncitedEnd]
      rfl
    rw [outlineOf_append outer, outlineOf_append inner, noFront, noEnd, content.outline,
      Outline.empty_append, Outline.append_empty]

theorem wraps_listItem : Wraps "<li>".toList "</li>\n".toList where
  starts := ⟨'l', _, rfl, by decide⟩
  tame := by decide
  uncited := by decide
  noMarker marker := by cases marker <;> decide
  endTag := ⟨_, rfl⟩
  tameEnd := by decide
  uncitedEnd := by decide
  ends := ⟨"</".toList, 'l', 'i', by decide, Or.inl (by decide)⟩

/-! ### Paragraphs, headings and rules -/

theorem paragraphMarkup_spells {text : Text} (plain : '<' ∉ text) :
    (∃ second rest, Hook.paragraphMarkup text = '<' :: second :: rest ∧ second ≠ 'd') ∧
      EndsBlock (Hook.paragraphMarkup text) := by
  cases note : Footnote.isNote text with
  | true =>
    rw [paragraphMarkup_of_note plain note]
    have ends : EndsBlock "</span>\n".toList := ⟨"</sp".toList, 'a', 'n', by decide, by decide⟩
    exact ⟨⟨'s', _, rfl, by decide⟩, endsBlock_append _ (endsBlock_append _ ends)⟩
  | false =>
    rw [paragraphMarkup_of_plain plain note]
    have ends : EndsBlock (stop ++ ['\n']) := ⟨['<'], '/', 'p', by decide, by decide⟩
    exact ⟨⟨'p', _, rfl, by decide⟩, endsBlock_append _ (endsBlock_append _ ends)⟩

theorem blocks_paragraph (isOpen : Bool) {text : Text} (plain : '<' ∉ text) :
    Blocks (markerHtml (opening isOpen) ++ Hook.paragraphMarkup text)
      (paragraphOutline (opening isOpen) text) := by
  obtain ⟨⟨second, rest, spelled, -⟩, ends⟩ := paragraphMarkup_spells plain
  refine ⟨?_, Or.inr (endsBlock_append _ ends), outlineOf_paragraph _ plain⟩
  cases isOpen with
  | true => exact Or.inr (Or.inl (congrArg List.head? spelled))
  | false => exact Or.inr (Or.inl rfl)

theorem endsBlock_headingEnd (level : Int) :
    EndsBlock ("</h".toList ++ (Text.ofInt level ++ ">\n".toList)) := by
  obtain ⟨init, last, digits⟩ :=
    (List.eq_nil_or_concat (Text.ofInt level)).resolve_left (Text.ofInt_ne_nil level)
  obtain ⟨front, second, equal⟩ := (List.eq_nil_or_concat ("</h".toList ++ init)).resolve_left
    (List.append_ne_nil_of_left_ne_nil (by decide) init)
  rw [List.concat_eq_append] at digits equal
  refine ⟨front, second, last, ?_, Or.inr ?_⟩
  · rw [digits, List.append_assoc, ← List.append_assoc, equal, List.append_assoc]
    rfl
  · rintro rfl
    have member : 'p' ∈ Text.ofInt level := by
      rw [digits]
      exact List.mem_append_right _ List.mem_cons_self
    exact absurd (Text.isDigit_of_mem_ofInt member) (by decide)

theorem blocks_heading (state : RenderState) (level : Int) {text : Text} (plain : '<' ∉ text) :
    Blocks (Hook.headingMarkup (state.headingNumber level) level text)
      (.ofCitation (cites text)) := by
  obtain ⟨idAttribute, title, spelled, -⟩ :=
    headingMarkup_spells (state.headingNumber level) level plain
  refine ⟨?_, Or.inr ?_, outlineOf_headingMarkup (plain_headingNumber state level) level plain⟩
  · rw [spelled]
    exact Or.inr (Or.inr ⟨_, rfl⟩)
  · rw [spelled]
    iterate 11 apply endsBlock_append
    exact endsBlock_headingEnd level

/-- The markup of a rule. -/
theorem blocks_rule (xhtml : Bool) :
    Blocks ("<hr".toList ++ Hook.voidEnd xhtml ++ ">\n".toList) .empty := by
  cases xhtml with
  | true =>
    have ends : EndsBlock "<hr />\n".toList := ⟨"<hr".toList, ' ', '/', by decide, by decide⟩
    exact ⟨Or.inr (Or.inl rfl), Or.inr ends, by decide⟩
  | false =>
    have ends : EndsBlock "<hr>\n".toList := ⟨"<".toList, 'h', 'r', by decide, by decide⟩
    exact ⟨Or.inr (Or.inl rfl), Or.inr ends, by decide⟩

/-! ### Lists -/

theorem plain_startAttribute (ordered : Bool) (start : Option Int) :
    '<' ∉ Hook.startAttribute ordered start ∧ '\u2014' ∉ Hook.startAttribute ordered start := by
  unfold Hook.startAttribute
  split
  · decide
  · next number =>
    split
    · simp only [List.mem_append, not_or]
      refine ⟨⟨⟨by decide, (plain_ofInt number).1⟩, by decide⟩, ⟨by decide, ?_⟩, by decide⟩
      intro member
      exact absurd (Text.isDigit_of_mem_ofInt member) (by decide)
    · decide

/-- The name of the element of a list. -/
def listName (ordered : Bool) : Text :=
  if ordered then "ol".toList else "ul".toList

theorem wraps_list (ordered : Bool) (start : Option Int) :
    Wraps (['<'] ++ listName ordered ++ Hook.startAttribute ordered start ++ ">\n".toList)
      ("</".toList ++ listName ordered ++ ">\n".toList) := by
  obtain ⟨plain, noDash⟩ := plain_startAttribute ordered start
  have lastLine : (['<'] ++ listName ordered ++ Hook.startAttribute ordered start ++
      ">\n".toList).getLast? = some '\n' := List.getLast?_append_of_ne_nil _ (by decide)
  refine ⟨?_, ?_, cites_of_no_dash ?_, not_marker_suffix lastLine, ?_, ?_, ?_, ?_⟩
  · cases ordered with
    | true => exact ⟨'o', _, rfl, by decide⟩
    | false => exact ⟨'u', _, rfl, by decide⟩
  · refine isTame_append (isTame_append ?_ (isTame_of_plain plain)) (by decide)
    cases ordered <;> decide
  · simp only [List.mem_append, not_or]
    refine ⟨⟨⟨by decide, ?_⟩, noDash⟩, by decide⟩
    cases ordered <;> decide
  · exact ⟨_, rfl⟩
  · cases ordered <;> decide
  · cases ordered <;> decide
  · cases ordered with
    | true => exact ⟨"</".toList, 'o', 'l', by decide, by decide⟩
    | false => exact ⟨"</".toList, 'u', 'l', by decide, by decide⟩

/-! ### Quotes -/

theorem blocks_quoteMarkup {content : Text} {outline : Outline} (blocks : Blocks content outline) :
    Blocks (Hook.quoteMarkup content) outline.quote := by
  have closed : ¬ "<p>".toList <:+ Text.trimEnd content := by
    rcases blocks.ends with rfl | ends
    · decide
    · exact not_start_suffix_of_endsBlock ends
  have ends : EndsBlock "</blockquote>\n".toList :=
    ⟨"</blockquo".toList, 't', 'e', by decide, by decide⟩
  refine ⟨Or.inr (Or.inl rfl), Or.inr (endsBlock_append _ ends), ?_⟩
  rw [outlineOf_quoteMarkup blocks.starts closed, blocks.outline]

theorem blocks_quote (isOpen : Bool) {content : Text} {outline : Outline}
    (blocks : Blocks content outline) :
    Blocks (['\n'] ++ markerHtml (closing isOpen) ++ Hook.quoteMarkup content)
      (.ofMarker (closing isOpen) ++ outline.quote) := by
  have noStart : ¬ "<p>".toList <+: Hook.quoteMarkup content := fun tag =>
    absurd (List.cons_prefix_cons.mp (List.cons_prefix_cons.mp tag).2).1 (by decide)
  have quote := blocks_quoteMarkup blocks
  have nonempty : Hook.quoteMarkup content ≠ [] := List.cons_ne_nil _ _
  have inner := blocks_marker (closing isOpen) quote nonempty noStart
  have joint : Joint ['\n'] (markerHtml (closing isOpen) ++ Hook.quoteMarkup content) :=
    ⟨inner.starts, fun _ => not_marker_suffix rfl⟩
  have noLine : outlineOf ['\n'] = .empty := by decide
  rw [List.append_assoc]
  refine ⟨?_, ?_, ?_⟩
  · cases isOpen <;> exact Or.inr (Or.inr ⟨_, rfl⟩)
  · exact Or.inr (endsBlock_append _ (endsBlock_append _ (quote.ends.resolve_left nonempty)))
  · rw [outlineOf_append joint, noLine, inner.outline, Outline.empty_append]

/-! ### The hooks -/

/-- Whether what was rendered is a sequence of blocks with an outline and leaves a group open or
not. -/
structure Renders (rendered : Text × RenderState) (outline : Outline) (isOpen : Bool) : Prop where
  blocks : Blocks rendered.1 outline
  grouped : Grouped rendered.2 isOpen

variable {state : RenderState} {isOpen : Bool}

theorem renders_paragraph (grouped : Grouped state isOpen) {text : Text} (plain : '<' ∉ text) :
    Renders (Hook.paragraph state text) (paragraphOutline (opening isOpen) text) true := by
  obtain ⟨marker, after⟩ := enter_paragraph grouped
  have blocks := blocks_paragraph isOpen plain
  rw [← marker] at blocks ⊢
  exact ⟨blocks, after⟩

theorem renders_heading (grouped : Grouped state isOpen) {text : Text} (plain : '<' ∉ text)
    (level : Int) : Renders (Hook.heading state text level)
      (.ofMarker (closing isOpen) ++ .ofCitation (cites text)) false := by
  obtain ⟨marker, after⟩ := enter_block grouped.groupOpen .heading rfl (by decide) (some level)
  have blocks := blocks_heading (state.enter .heading (some level)).2 level plain
  have noStart : ¬ "<p>".toList <+: Hook.headingMarkup
      ((state.enter .heading (some level)).2.headingNumber level) level text := fun tag =>
    absurd (List.cons_prefix_cons.mp tag).1 (by decide)
  have marked := blocks_marker (closing isOpen) blocks (List.cons_ne_nil _ _) noStart
  rw [← marker] at marked
  rw [← marker]
  exact ⟨marked, after⟩

/-- A hook that writes blocks behind its marker. -/
theorem renders_emit (grouped : Grouped state isOpen) (construct : Construct)
    (block : construct.isBlock = true) (other : construct ≠ .paragraph) {markup : Text}
    {outline : Outline} (blocks : Blocks markup outline) {second : Char} {rest : Text}
    (spelled : markup = '<' :: second :: rest) (noStart : second ≠ 'p') :
    Renders (Hook.emit state construct markup) (.ofMarker (closing isOpen) ++ outline) false := by
  obtain ⟨marker, after⟩ := enter_block grouped.groupOpen construct block other none
  have nonempty : markup ≠ [] := by
    rw [spelled]
    exact List.cons_ne_nil _ _
  have notTag : ¬ "<p>".toList <+: markup := by
    rw [spelled]
    exact fun tag => noStart (List.cons_prefix_cons.mp (List.cons_prefix_cons.mp tag).2).1.symm
  have marked := blocks_marker (closing isOpen) blocks nonempty notTag
  rw [← marker] at marked
  rw [← marker]
  exact ⟨marked, after⟩

theorem renders_rule (grouped : Grouped state isOpen) (xhtml : Bool) :
    Renders (Hook.rule state xhtml) (.ofMarker (closing isOpen)) false := by
  have rendered := renders_emit grouped .rule rfl (by decide) (blocks_rule xhtml) rfl (by decide)
  rw [Outline.append_empty] at rendered
  exact rendered

theorem renders_list {rendered : Text × RenderState} {outline : Outline}
    (content : Renders rendered outline isOpen) (ordered : Bool) (start : Option Int) :
    Renders (Hook.list rendered.2 rendered.1 ordered start)
      (.ofMarker (closing isOpen) ++ outline) false := by
  have wraps := wraps_list ordered start
  obtain ⟨second, rest, spelled, noStart⟩ := wraps.starts
  have blocks := blocks_wrap wraps content.blocks
  have markup := congrArg (· ++ (rendered.1 ++ ("</".toList ++ listName ordered ++ ">\n".toList)))
    spelled
  have listed := renders_emit content.grouped .list rfl (by decide) blocks markup noStart
  unfold Hook.list
  simp only [← List.append_assoc] at listed ⊢
  exact listed

theorem renders_listItem {rendered : Text × RenderState} {outline : Outline}
    (content : Renders rendered outline isOpen) :
    Renders (Hook.listItem rendered.2 rendered.1) outline isOpen := by
  obtain ⟨marker, after⟩ := enter_listItem content.grouped
  have blocks := blocks_wrap wraps_listItem content.blocks
  refine ⟨?_, after⟩
  unfold Hook.listItem Hook.emit
  dsimp only
  rw [marker, List.append_assoc]
  exact blocks

/-- A quote whose content starts with no opener writes its marker. -/
theorem renders_quote {rendered : Text × RenderState} {outline : Outline}
    (content : Renders rendered outline isOpen)
    (noOpener : ¬ GroupMarker.opener.html <+: rendered.1) :
    Renders (Hook.quote rendered.2 rendered.1)
      (.ofMarker (closing isOpen) ++ outline.quote) false := by
  obtain ⟨marker, after⟩ := enter_block content.grouped.groupOpen .quote rfl (by decide) none
  have blocks := blocks_quote isOpen content.blocks
  rw [← marker] at blocks
  rw [← marker]
  unfold Hook.quote
  rw [Text.after?_eq_none noOpener]
  exact ⟨blocks, after⟩

/-- A quote takes the opener at the start of its content out, and writes no marker. -/
theorem renders_quote_of_opener (state : RenderState) {content : Text} {outline : Outline}
    (blocks : Blocks content outline) :
    Renders (Hook.quote state (GroupMarker.opener.html ++ content)) outline.quote false := by
  have discarded : state.discardGroup.groupOpen = false := rfl
  obtain ⟨marker, after⟩ := enter_block discarded .quote rfl (by decide) none
  have noMarker : Outline.ofMarker (closing false) = .empty := rfl
  have quote := blocks_quote false blocks
  rw [noMarker, Outline.empty_append, ← marker] at quote
  unfold Hook.quote
  rw [Text.after?_append]
  exact ⟨quote, after⟩

/-! ### Openers at the start -/

theorem not_opener_of_second {markup rest : Text} {second : Char}
    (spelled : markup = '<' :: second :: rest) (other : second ≠ 'd') (more : Text) :
    ¬ GroupMarker.opener.html <+: markup ++ more := by
  rw [spelled]
  exact fun starts => other (List.cons_prefix_cons.mp (List.cons_prefix_cons.mp starts).2).1.symm

theorem not_opener_of_line {markup rest : Text} (spelled : markup = '\n' :: rest) (more : Text) :
    ¬ GroupMarker.opener.html <+: markup ++ more := by
  rw [spelled]
  exact fun starts => absurd (List.cons_prefix_cons.mp starts).1 (by decide)

/-- What stands behind the marker of a block that is no paragraph decides whether it starts with
an opener. -/
theorem not_opener_of_closing {markup : Text} (isOpen : Bool)
    (inner : ∀ more, ¬ GroupMarker.opener.html <+: markup ++ more) (more : Text) :
    ¬ GroupMarker.opener.html <+: markerHtml (closing isOpen) ++ markup ++ more := by
  cases isOpen with
  | true => exact not_opener_of_second rfl (by decide) _
  | false => exact inner more

/-- A tree starts with an opener only if it is a paragraph outside of a group. -/
theorem not_opener_render (options : Options) {tree : Tree}
    (plain : ∀ text ∈ tree.texts, '<' ∉ text) (grouped : Grouped state isOpen)
    (other : (tree.isParagraph && !isOpen) = false) (more : Text) :
    ¬ GroupMarker.opener.html <+: (tree.render options state).1 ++ more := by
  cases tree with
  | paragraph text =>
    obtain rfl : isOpen = true := by simpa [Tree.isParagraph] using other
    obtain ⟨marker, -⟩ := enter_paragraph grouped
    obtain ⟨⟨second, rest, spelled, notOpener⟩, -⟩ :=
      paragraphMarkup_spells (plain text List.mem_cons_self)
    have whole : (Hook.paragraph state text).1 = '<' :: second :: rest := by
      unfold Hook.paragraph Hook.emit
      dsimp only
      rw [marker]
      exact spelled
    exact not_opener_of_second whole notOpener more
  | heading text level =>
    obtain ⟨marker, -⟩ := enter_block grouped.groupOpen .heading rfl (by decide) (some level)
    show ¬ _ <+: markerHtml (state.enter .heading (some level)).1 ++ _ ++ more
    rw [marker]
    exact not_opener_of_closing isOpen (not_opener_of_line rfl) more
  | rule =>
    obtain ⟨marker, -⟩ := enter_block grouped.groupOpen .rule rfl (by decide) none
    show ¬ _ <+: markerHtml (state.enter .rule none).1 ++ _ ++ more
    rw [marker]
    exact not_opener_of_closing isOpen (not_opener_of_second rfl (by decide)) more
  | list ordered start items =>
    obtain ⟨marker, -⟩ := enter_block (Eq.refl (renderItems options items state).2.groupOpen) .list
      rfl (by decide) none
    show ¬ _ <+: markerHtml ((renderItems options items state).2.enter .list none).1 ++ _ ++ more
    rw [marker]
    refine not_opener_of_closing _ ?_ more
    cases ordered with
    | true => exact not_opener_of_second rfl (by decide)
    | false => exact not_opener_of_second rfl (by decide)
  | quote children => exact not_opener_of_line rfl more

/-! ### Trees -/

/-- A quote around a tree and others that render as they should. -/
theorem renders_quote_cons {options : Options} {first : Tree} {others : List Tree}
    (plain : ∀ text ∈ first.texts, '<' ∉ text) (grouped : Grouped state isOpen)
    (head : Renders (first.render options state) (first.outline isOpen) first.isParagraph)
    (tail : Renders (renderAll options others (first.render options state).2)
      (outlineOfAll first.isParagraph others) (openAfter first.isParagraph others)) :
    Renders ((Tree.quote (first :: others)).render options state)
      ((Tree.quote (first :: others)).outline isOpen) false := by
  rw [Tree.outline]
  cases stripped : first.isParagraph && !isOpen with
  | false =>
    rw [if_neg Bool.false_ne_true]
    have content : Renders (renderAll options (first :: others) state)
        (first.outline isOpen ++ outlineOfAll first.isParagraph others)
        (openAfter isOpen (first :: others)) :=
      ⟨blocks_append head.blocks tail.blocks, tail.grouped⟩
    have noOpener : ¬ GroupMarker.opener.html <+: (renderAll options (first :: others) state).1 :=
      not_opener_render options plain grouped stripped _
    show Renders (Hook.quote (renderAll options (first :: others) state).2
      (renderAll options (first :: others) state).1) _ _
    exact renders_quote content noOpener
  | true =>
    rw [if_pos rfl]
    cases first with
    | paragraph text =>
      obtain rfl : isOpen = false := by simpa [Tree.isParagraph] using stripped
      obtain ⟨marker, -⟩ := enter_paragraph grouped
      have inner := blocks_paragraph true (plain text List.mem_cons_self)
      have blocks := blocks_append inner tail.blocks
      have spelled : (Hook.paragraph state text).1 =
          GroupMarker.opener.html ++ Hook.paragraphMarkup text := by
        unfold Hook.paragraph Hook.emit
        dsimp only
        rw [marker]
        rfl
      show Renders (Hook.quote _ ((Hook.paragraph state text).1 ++ _)) _ _
      rw [spelled, List.append_assoc]
      exact renders_quote_of_opener _ blocks
    | heading text level => cases stripped
    | rule => cases stripped
    | list ordered start items => cases stripped
    | quote children => cases stripped

mutual

/-- A tree renders to blocks with its outline and leaves a group open if it is a paragraph. -/
theorem renders_tree (options : Options) (tree : Tree) (plain : ∀ text ∈ tree.texts, '<' ∉ text)
    {state : RenderState} {isOpen : Bool} (grouped : Grouped state isOpen) :
    Renders (tree.render options state) (tree.outline isOpen) tree.isParagraph := by
  match tree with
  | .paragraph text => exact renders_paragraph grouped (plain text List.mem_cons_self)
  | .heading text level => exact renders_heading grouped (plain text List.mem_cons_self) level
  | .rule => exact renders_rule grouped options.xhtml
  | .list ordered start items =>
    exact renders_list (renders_items options items plain grouped) ordered start
  | .quote [] =>
    have content : Renders ([], state) .empty isOpen := ⟨blocks_nil, grouped⟩
    exact renders_quote content fun starts =>
      marker_ne_nil .opener (List.prefix_nil.mp starts)
  | .quote (first :: others) =>
    obtain ⟨plainFirst, plainOthers⟩ := List.forall_mem_append.mp plain
    have head := renders_tree options first plainFirst grouped
    have tail := renders_all options others plainOthers head.grouped
    exact renders_quote_cons plainFirst grouped head tail

/-- Trees in a row render to blocks with their outline. -/
theorem renders_all (options : Options) (trees : List Tree)
    (plain : ∀ text ∈ textsOfAll trees, '<' ∉ text)
    {state : RenderState} {isOpen : Bool} (grouped : Grouped state isOpen) :
    Renders (renderAll options trees state) (outlineOfAll isOpen trees)
      (openAfter isOpen trees) := by
  match trees with
  | [] => exact ⟨blocks_nil, grouped⟩
  | tree :: others =>
    obtain ⟨plainTree, plainOthers⟩ := List.forall_mem_append.mp plain
    have first := renders_tree options tree plainTree grouped
    have rest := renders_all options others plainOthers first.grouped
    exact ⟨blocks_append first.blocks rest.blocks, rest.grouped⟩

/-- The items of a list render to blocks with their outline. -/
theorem renders_items (options : Options) (items : List (List Tree))
    (plain : ∀ text ∈ textsOfItems items, '<' ∉ text)
    {state : RenderState} {isOpen : Bool} (grouped : Grouped state isOpen) :
    Renders (renderItems options items state) (outlineOfItems isOpen items)
      (openAfterItems isOpen items) := by
  match items with
  | [] => exact ⟨blocks_nil, grouped⟩
  | item :: others =>
    obtain ⟨plainItem, plainOthers⟩ := List.forall_mem_append.mp plain
    have first := renders_listItem (renders_all options item plainItem grouped)
    have rest := renders_items options others plainOthers first.grouped
    exact ⟨blocks_append first.blocks rest.blocks, rest.grouped⟩

end

/-! ### Documents -/

/-- The group markers of a rendered document are those that its trees call for. -/
theorem marks_renderDocument (options : Options) {trees : List Tree}
    (plain : ∀ text ∈ textsOfAll trees, '<' ∉ text) :
    marks (renderDocument options trees) = documentMarks trees := by
  have rendered := renders_all options trees plain (grouped_fresh options.chapter)
  have last : (renderAll options trees (.fresh options.chapter)).2.finish.1 =
      closing (openAfter false trees) := by
    rw [RenderState.finish, rendered.grouped.groupOpen]
    rfl
  have starts : ∀ first ∈ (markerHtml (closing (openAfter false trees))).head?,
      first = '<' ∨ first = '\n' := by
    cases openAfter false trees <;> decide
  show marks ((renderAll options trees (.fresh options.chapter)).1 ++
    markerHtml (renderAll options trees (.fresh options.chapter)).2.finish.1) = _
  rw [last, marks_append_of_head? starts, marks_markerHtml, documentMarks,
    ← rendered.blocks.outline, outlineOf_all]

end Group

end BookMarkup
