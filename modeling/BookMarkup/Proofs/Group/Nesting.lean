/-
This file proves exactly when the groups of a document nest: when, from left to right, its
group markers alternate and start with an opener.

Containers are where they may fail to. A list or a quote is rendered behind its content but
its marker stands in front of it, so a group that is open at the end of the content is
closed in front of the content. That is right only if the group was open there already and
the content leaves it alone. And a quote takes out the opener at the start of its content,
but not the closer that answers it.
-/

import BookMarkup.Proofs.Group.Document

namespace BookMarkup

namespace Group

/-! ### Alternation -/

/-- Whether openers and closers alternate strictly, starting with an opener, and are equally
many. -/
def alternates : List GroupMarker → Bool
  | [] => true
  | .opener :: .closer :: rest => alternates rest
  | _ => false

/-- Reads markers and tells whether a group is open behind them; none if they do not alternate. -/
def run : Bool → List GroupMarker → Option Bool
  | isOpen, [] => some isOpen
  | false, .opener :: rest => run true rest
  | true, .closer :: rest => run false rest
  | false, .closer :: _ => none
  | true, .opener :: _ => none

theorem run_append (isOpen : Bool) (first second : List GroupMarker) :
    run isOpen (first ++ second) = (run isOpen first).bind fun between => run between second := by
  induction first generalizing isOpen with
  | nil => rfl
  | cons marker rest inductionHypothesis =>
    cases isOpen <;> cases marker <;> first
      | exact inductionHypothesis _
      | rfl

theorem alternates_iff_run (markers : List GroupMarker) :
    alternates markers = true ↔ run false markers = some false := by
  fun_induction alternates markers with
  | case1 => simp [run]
  | case2 rest inductionHypothesis => exact inductionHypothesis
  | case3 markers notNil notPair =>
    constructor
    · intro alternating
      cases alternating
    · intro closed
      match markers with
      | [] => exact absurd rfl notNil
      | .closer :: _ => cases closed
      | [.opener] => cases closed
      | .opener :: .opener :: _ => cases closed
      | .opener :: .closer :: rest => exact absurd rfl (notPair rest)

/-! ### Nesting trees -/

mutual

/-- Whether the groups of a tree nest. A list of paragraphs alone needs a group that is open in
front of it; a quote of paragraphs alone is free of groups. Any other content must not end in a
paragraph, in a quote outside of a group it must not start with one either, and it must nest. -/
def Tree.nests (isOpen : Bool) : Tree → Bool
  | .paragraph _ | .heading _ _ | .rule => true
  | .list _ _ items =>
    if items.flatten.all Tree.isParagraph then isOpen || items.flatten.isEmpty
    else !openAfterItems isOpen items && nestsItems isOpen items
  | .quote children =>
    children.all Tree.isParagraph ||
      !openAfter isOpen children && (isOpen || !children.head?.any Tree.isParagraph) &&
        nestsAll isOpen children

/-- Whether the groups of trees in a row nest. -/
def nestsAll (isOpen : Bool) : List Tree → Bool
  | [] => true
  | tree :: others => tree.nests isOpen && nestsAll tree.isParagraph others

/-- Whether the groups of the items of a list nest. -/
def nestsItems (isOpen : Bool) : List (List Tree) → Bool
  | [] => true
  | item :: others => nestsAll isOpen item && nestsItems (openAfter isOpen item) others

end

/-! ### What is open behind trees -/

theorem openAfter_append (isOpen : Bool) (first second : List Tree) :
    openAfter isOpen (first ++ second) = openAfter (openAfter isOpen first) second := by
  induction first generalizing isOpen with
  | nil => rfl
  | cons tree others inductionHypothesis => exact inductionHypothesis tree.isParagraph

theorem openAfterItems_eq (isOpen : Bool) (items : List (List Tree)) :
    openAfterItems isOpen items = openAfter isOpen items.flatten := by
  induction items generalizing isOpen with
  | nil => rfl
  | cons item others inductionHypothesis =>
    rw [openAfterItems, List.flatten_cons, openAfter_append, inductionHypothesis]

/-- Behind paragraphs alone a group is open, if there are any. -/
theorem openAfter_of_paragraphs {trees : List Tree} (paragraphs : trees.all Tree.isParagraph = true)
    (isOpen : Bool) : openAfter isOpen trees = (isOpen || !trees.isEmpty) := by
  induction trees generalizing isOpen with
  | nil => exact (Bool.or_false isOpen).symm
  | cons tree others inductionHypothesis =>
    rw [List.all_cons, Bool.and_eq_true] at paragraphs
    rw [openAfter, paragraphs.1, inductionHypothesis paragraphs.2]
    simp

/-! ### What a container makes of its content -/

/-- What is known about the markers of some content: how they alternate, and how they start when a
group is open in front of them. -/
structure Content (isOpen after nests paragraphs : Bool) (markers : List GroupMarker) : Prop where
  runs : run isOpen markers = if nests then some after else none
  starts : isOpen = true →
    if paragraphs then markers = [] else markers.head? = some .closer

theorem run_of_head? {markers : List GroupMarker} (starts : markers.head? = some .closer) :
    run false markers = none := by
  obtain ⟨rest, rfl⟩ := List.head?_eq_some_iff.mp starts
  rfl

theorem content_nil (isOpen : Bool) : Content isOpen isOpen true true [] :=
  ⟨rfl, fun _ => rfl⟩

/-- Contents in a row. -/
theorem content_append {isOpen between after firstNests restNest firstParagraphs restParagraphs :
    Bool} {first rest : List GroupMarker}
    (before : Content isOpen between firstNests firstParagraphs first)
    (behind : Content between after restNest restParagraphs rest)
    (stays : firstParagraphs = true → isOpen = true → between = true) :
    Content isOpen after (firstNests && restNest) (firstParagraphs && restParagraphs)
      (first ++ rest) := by
  constructor
  · rw [run_append, before.runs]
    cases firstNests with
    | true => exact behind.runs
    | false => rfl
  · intro inGroup
    have start := before.starts inGroup
    cases firstParagraphs with
    | true =>
      rw [if_pos rfl] at start
      rw [start, Bool.true_and, List.nil_append]
      exact behind.starts (stays rfl inGroup)
    | false =>
      rw [if_neg Bool.false_ne_true] at start
      rw [Bool.false_and, if_neg Bool.false_ne_true, List.head?_append, start]
      rfl

/-- A marker that closes, in front of the content, what the content leaves open. -/
theorem content_closing {isOpen after nests paragraphs : Bool} {markers : List GroupMarker}
    (content : Content isOpen after nests paragraphs markers)
    (stays : paragraphs = true → isOpen = true → after = true) :
    Content isOpen false (if after then isOpen && paragraphs else nests) false
      ((closing after).toList ++ markers) := by
  constructor
  · cases after with
    | false => exact content.runs
    | true =>
      cases isOpen with
      | false => rfl
      | true =>
        have start := content.starts rfl
        cases paragraphs with
        | true =>
          rw [if_pos rfl] at start
          rw [start]
          rfl
        | false =>
          rw [if_neg Bool.false_ne_true] at start
          exact run_of_head? start
  · intro inGroup
    rw [if_neg Bool.false_ne_true]
    cases after with
    | true => rfl
    | false =>
      have start := content.starts inGroup
      cases paragraphs with
      | true => exact absurd (stays rfl inGroup) Bool.false_ne_true
      | false =>
        rw [if_neg Bool.false_ne_true] at start
        exact start

/-! ### Content without citations -/

mutual

/-- A tree without a citation in its texts has none in its outline. -/
theorem cited_outline (tree : Tree) (uncited : ∀ text ∈ tree.texts, cites text = false)
    (isOpen : Bool) : (tree.outline isOpen).cited = false := by
  match tree with
  | .paragraph text =>
    rw [Tree.outline, cited_paragraphOutline]
    exact uncited text List.mem_cons_self
  | .heading text level =>
    rw [Tree.outline, Outline.cited_append]
    exact uncited text List.mem_cons_self
  | .rule => rfl
  | .list ordered start items =>
    rw [Tree.outline, Outline.cited_append, cited_outlineOfItems items uncited]
    rfl
  | .quote [] =>
    rw [Tree.outline, Outline.cited_append]
    rfl
  | .quote (first :: others) =>
    obtain ⟨inFirst, inOthers⟩ := List.forall_mem_append.mp uncited
    rw [Tree.outline]
    split
    · rw [Outline.cited_quote, Outline.cited_append, cited_outline first inFirst,
        cited_outlineOfAll others inOthers]
      rfl
    · rw [Outline.cited_append, Outline.cited_quote, Outline.cited_append,
        cited_outline first inFirst, cited_outlineOfAll others inOthers]
      rfl

theorem cited_outlineOfAll (trees : List Tree)
    (uncited : ∀ text ∈ textsOfAll trees, cites text = false) (isOpen : Bool) :
    (outlineOfAll isOpen trees).cited = false := by
  match trees with
  | [] => rfl
  | tree :: others =>
    obtain ⟨inTree, inOthers⟩ := List.forall_mem_append.mp uncited
    rw [outlineOfAll, Outline.cited_append, cited_outline tree inTree,
      cited_outlineOfAll others inOthers]
    rfl

theorem cited_outlineOfItems (items : List (List Tree))
    (uncited : ∀ text ∈ textsOfItems items, cites text = false) (isOpen : Bool) :
    (outlineOfItems isOpen items).cited = false := by
  match items with
  | [] => rfl
  | item :: others =>
    obtain ⟨inItem, inOthers⟩ := List.forall_mem_append.mp uncited
    rw [outlineOfItems, Outline.cited_append, cited_outlineOfAll item inItem,
      cited_outlineOfItems others inOthers]
    rfl

end

mutual

theorem quoted_subset_texts (tree : Tree) : tree.quoted ⊆ tree.texts := by
  match tree with
  | .paragraph _ | .heading _ _ | .rule => exact List.nil_subset _
  | .list ordered start items => exact quotedInItems_subset items
  | .quote children => exact List.Subset.refl _

theorem quotedInAll_subset (trees : List Tree) : quotedInAll trees ⊆ textsOfAll trees := by
  match trees with
  | [] => exact List.Subset.refl _
  | tree :: others =>
    exact List.append_subset.mpr
      ⟨List.subset_append_of_subset_left _ (quoted_subset_texts tree),
        List.subset_append_of_subset_right _ (quotedInAll_subset others)⟩

theorem quotedInItems_subset (items : List (List Tree)) :
    quotedInItems items ⊆ textsOfItems items := by
  match items with
  | [] => exact List.Subset.refl _
  | item :: others =>
    exact List.append_subset.mpr
      ⟨List.subset_append_of_subset_left _ (quotedInAll_subset item),
        List.subset_append_of_subset_right _ (quotedInItems_subset others)⟩

end

/-! ### Content of paragraphs -/

theorem nestsAll_of_paragraphs {trees : List Tree} (paragraphs : trees.all Tree.isParagraph = true)
    (isOpen : Bool) : nestsAll isOpen trees = true := by
  induction trees generalizing isOpen with
  | nil => rfl
  | cons tree others inductionHypothesis =>
    rw [List.all_cons, Bool.and_eq_true] at paragraphs
    rw [nestsAll, inductionHypothesis paragraphs.2, Bool.and_true]
    cases tree with
    | paragraph text => rfl
    | heading text level => rfl
    | rule => rfl
    | list ordered start items => cases paragraphs.1
    | quote children => cases paragraphs.1

theorem nestsItems_of_paragraphs {items : List (List Tree)}
    (paragraphs : items.flatten.all Tree.isParagraph = true) (isOpen : Bool) :
    nestsItems isOpen items = true := by
  induction items generalizing isOpen with
  | nil => rfl
  | cons item others inductionHypothesis =>
    rw [List.flatten_cons, List.all_append, Bool.and_eq_true] at paragraphs
    rw [nestsItems, nestsAll_of_paragraphs paragraphs.1, inductionHypothesis paragraphs.2]
    rfl

/-- A list nests if its content is closed rightly, or closed already and nests. -/
theorem nests_list (ordered : Bool) (start : Option Int) (items : List (List Tree))
    (isOpen : Bool) : (Tree.list ordered start items).nests isOpen =
      if openAfterItems isOpen items then isOpen && items.flatten.all Tree.isParagraph
      else nestsItems isOpen items := by
  rw [Tree.nests]
  cases paragraphs : items.flatten.all Tree.isParagraph with
  | true =>
    rw [openAfterItems_eq, openAfter_of_paragraphs paragraphs, nestsItems_of_paragraphs paragraphs]
    cases isOpen <;> cases items.flatten.isEmpty <;> rfl
  | false =>
    cases openAfterItems isOpen items <;> simp

/-- So does a quote that takes no opener out. -/
theorem nests_quote {first : Tree} (others : List Tree) {isOpen : Bool}
    (other : (first.isParagraph && !isOpen) = false) :
    (Tree.quote (first :: others)).nests isOpen =
      if openAfter isOpen (first :: others) then
        isOpen && (first :: others).all Tree.isParagraph
      else nestsAll isOpen (first :: others) := by
  rw [Tree.nests]
  cases paragraphs : (first :: others).all Tree.isParagraph with
  | true =>
    have isFirst : first.isParagraph = true := by
      rw [List.all_cons, Bool.and_eq_true] at paragraphs
      exact paragraphs.1
    obtain rfl : isOpen = true := by simpa [isFirst] using other
    rw [openAfter_of_paragraphs paragraphs]
    rfl
  | false =>
    have start : (isOpen || !(first :: others).head?.any Tree.isParagraph) = true := by
      cases isOpen with
      | true => rfl
      | false => simpa using other
    rw [start]
    cases openAfter isOpen (first :: others) <;> simp

/-! ### Trees -/

theorem content_paragraph (isOpen : Bool) :
    Content isOpen true true true (opening isOpen).toList := by
  cases isOpen with
  | true => exact ⟨rfl, fun _ => rfl⟩
  | false => exact ⟨rfl, fun inGroup => by cases inGroup⟩

theorem content_block (isOpen : Bool) :
    Content isOpen false true false (closing isOpen).toList := by
  cases isOpen with
  | true => exact ⟨rfl, fun _ => rfl⟩
  | false => exact ⟨rfl, fun inGroup => by cases inGroup⟩

/-- A quote takes out the opener at the start of its content, so the rest must be paragraphs. -/
theorem content_stripped {after nests paragraphs : Bool} {markers : List GroupMarker}
    (content : Content true after nests paragraphs markers) :
    Content false false paragraphs false markers := by
  have start := content.starts rfl
  refine ⟨?_, fun inGroup => by cases inGroup⟩
  cases paragraphs with
  | true =>
    rw [if_pos rfl] at start
    rw [start]
    rfl
  | false =>
    rw [if_neg Bool.false_ne_true] at start
    exact run_of_head? start

/-- A quote around a tree and others whose markers alternate as they should. -/
theorem content_quote {first : Tree} {others : List Tree} {isOpen : Bool}
    (inFirst : ∀ text ∈ first.texts, cites text = false)
    (inOthers : ∀ text ∈ textsOfAll others, cites text = false)
    (head : Content isOpen first.isParagraph (first.nests isOpen) first.isParagraph
      (first.outline isOpen).all)
    (tail : ∀ isOpen, Content isOpen (openAfter isOpen others) (nestsAll isOpen others)
      (others.all Tree.isParagraph) (outlineOfAll isOpen others).all) :
    Content isOpen false ((Tree.quote (first :: others)).nests isOpen) false
      ((Tree.quote (first :: others)).outline isOpen).all := by
  have uncited (isOpen : Bool) (between : Bool) :
      (first.outline isOpen ++ outlineOfAll between others).cited = false := by
    rw [Outline.cited_append, cited_outline first inFirst, cited_outlineOfAll others inOthers]
    rfl
  rw [Tree.outline]
  cases stripped : first.isParagraph && !isOpen with
  | false =>
    rw [if_neg Bool.false_ne_true, nests_quote others stripped, Outline.all_append,
      Outline.all_quote_of_uncited (uncited _ _), Outline.all_append]
    have content := content_append head (tail first.isParagraph) fun paragraph _ => paragraph
    refine content_closing content fun paragraphs inGroup => ?_
    have whole : (first :: others).all Tree.isParagraph = true := paragraphs
    exact (openAfter_of_paragraphs whole isOpen).trans (by rw [inGroup, Bool.true_or])
  | true =>
    obtain ⟨isFirst, notOpen⟩ := Bool.and_eq_true_iff.mp stripped
    obtain rfl : isOpen = false := by simpa using notOpen
    have noMarker : (first.outline true).all = [] := by
      cases first with
      | paragraph text => exact all_paragraphOutline none text
      | heading text level => cases isFirst
      | rule => cases isFirst
      | list ordered start items => cases isFirst
      | quote children => cases isFirst
    have nests : (Tree.quote (first :: others)).nests false = others.all Tree.isParagraph := by
      rw [Tree.nests, List.all_cons, List.head?_cons, Option.any_some, isFirst]
      simp
    rw [if_pos rfl, Outline.all_quote_of_uncited (uncited _ _), Outline.all_append, noMarker,
      List.nil_append, nests]
    exact content_stripped (tail true)

mutual

/-- The markers of a tree alternate exactly if it nests. -/
theorem content_tree (tree : Tree) (uncited : ∀ text ∈ tree.quoted, cites text = false)
    (isOpen : Bool) :
    Content isOpen tree.isParagraph (tree.nests isOpen) tree.isParagraph
      (tree.outline isOpen).all := by
  match tree with
  | .paragraph text =>
    rw [Tree.outline, all_paragraphOutline]
    exact content_paragraph isOpen
  | .heading text level =>
    rw [Tree.outline, Outline.all_append]
    have none : (Outline.ofCitation (cites text)).all = [] := rfl
    rw [none, List.append_nil]
    exact content_block isOpen
  | .rule => exact content_block isOpen
  | .list ordered start items =>
    have content := content_items items uncited isOpen
    rw [Tree.outline, Outline.all_append, nests_list]
    refine content_closing content fun paragraphs inGroup => ?_
    rw [openAfterItems_eq, openAfter_of_paragraphs paragraphs, inGroup, Bool.true_or]
  | .quote [] =>
    rw [Tree.outline, Outline.all_append]
    have none : Outline.empty.quote.all = [] := rfl
    rw [none, List.append_nil]
    exact content_block isOpen
  | .quote (first :: others) =>
    obtain ⟨inFirst, inOthers⟩ := List.forall_mem_append.mp uncited
    have head := content_tree first
      (fun text member => inFirst text (quoted_subset_texts first member)) isOpen
    have tail (isOpen : Bool) := content_all others
      (fun text member => inOthers text (quotedInAll_subset others member)) isOpen
    exact content_quote inFirst inOthers head tail

/-- The markers of trees in a row alternate exactly if they nest. -/
theorem content_all (trees : List Tree) (uncited : ∀ text ∈ quotedInAll trees, cites text = false)
    (isOpen : Bool) :
    Content isOpen (openAfter isOpen trees) (nestsAll isOpen trees) (trees.all Tree.isParagraph)
      (outlineOfAll isOpen trees).all := by
  match trees with
  | [] => exact content_nil isOpen
  | tree :: others =>
    obtain ⟨inTree, inOthers⟩ := List.forall_mem_append.mp uncited
    rw [outlineOfAll, Outline.all_append]
    exact content_append (content_tree tree inTree isOpen)
      (content_all others inOthers tree.isParagraph) fun paragraph _ => paragraph

/-- The markers of the items of a list alternate exactly if they nest. -/
theorem content_items (items : List (List Tree))
    (uncited : ∀ text ∈ quotedInItems items, cites text = false) (isOpen : Bool) :
    Content isOpen (openAfterItems isOpen items) (nestsItems isOpen items)
      (items.flatten.all Tree.isParagraph) (outlineOfItems isOpen items).all := by
  match items with
  | [] => exact content_nil isOpen
  | item :: others =>
    obtain ⟨inItem, inOthers⟩ := List.forall_mem_append.mp uncited
    rw [outlineOfItems, Outline.all_append, List.flatten_cons, List.all_append]
    refine content_append (content_all item inItem isOpen)
      (content_items others inOthers (openAfter isOpen item)) fun paragraphs inGroup => ?_
    rw [openAfter_of_paragraphs paragraphs, inGroup, Bool.true_or]

end

/-! ### Documents -/

/-- The group markers of a document that is rendered from a fresh state are those that its trees
call for. If no text in a quote holds a citation, which would cut the quote short, they alternate
exactly if the trees nest. -/
theorem groups_alternate_iff_nest (options : Options) (trees : List Tree)
    (plain : ∀ text ∈ textsOfAll trees, '<' ∉ text) :
    marks (renderDocument options trees) = documentMarks trees ∧
      ((∀ text ∈ quotedInAll trees, cites text = false) →
        (alternates (marks (renderDocument options trees)) = true ↔
          nestsAll false trees = true)) := by
  have rendered := marks_renderDocument options plain
  refine ⟨rendered, fun uncited => ?_⟩
  rw [rendered, alternates_iff_run, documentMarks, run_append,
    (content_all trees uncited false).runs]
  cases nestsAll false trees with
  | false => simp
  | true => cases openAfter false trees <;> simp [closing, run]

/-- A list and a quote of paragraphs nest behind a paragraph. -/
theorem groups_alternate_around_list_and_quote :
    (∀ text ∈ textsOfAll [.paragraph ['a'], .list true (some 2) [[.paragraph ['b']], []],
        .quote [.paragraph ['c'], .paragraph ['d']]], '<' ∉ text) ∧
      (∀ text ∈ quotedInAll [.paragraph ['a'], .list true (some 2) [[.paragraph ['b']], []],
        .quote [.paragraph ['c'], .paragraph ['d']]], cites text = false) ∧
      alternates (marks (renderDocument {} [.paragraph ['a'],
        .list true (some 2) [[.paragraph ['b']], []],
        .quote [.paragraph ['c'], .paragraph ['d']]])) = true :=
  ⟨by decide, by decide,
    ((groups_alternate_iff_nest {} _ (by decide)).2 (by decide)).mpr (by decide)⟩

/-- Groups do not always alternate: a quote of a paragraph and a rule keeps the closer in front of
the rule alone. -/
theorem not_always_alternates : ¬ ∀ (options : Options) (trees : List Tree),
    (∀ text ∈ textsOfAll trees, '<' ∉ text) →
      alternates (marks (renderDocument options trees)) = true := by
  intro always
  have alternating := always {} [.quote [.paragraph ['a'], .rule]] (by decide)
  exact absurd alternating (by decide)

end Group

end BookMarkup
