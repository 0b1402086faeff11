/-
This file lists the block trees for which grouping is studied, renders them with the hooks
of one renderer, children before their parent, and finds the outlines that the rendered
markup should have from the trees alone.

Whether a group is open when a block is rendered depends on the block rendered last: it is
open exactly behind a paragraph. So the outline of a tree is a function of the tree and of
this one fact. The hooks emit their markers in the order of the calls; the marker of a
list or a quote is decided behind its content but stands in front of it.
-/

import BookMarkup.Hook.Block
import BookMarkup.Options
import BookMarkup.Proofs.Group.Leaf

namespace BookMarkup

namespace Group

/-! ### Trees -/

/-- A block with its content. -/
inductive Tree where
  | paragraph (text : Text)
  | heading (text : Text) (level : Int)
  | rule
  /-- A list of items, of which each holds a sequence of blocks. -/
  | list (ordered : Bool) (start : Option Int) (items : List (List Tree))
  | quote (children : List Tree)

/-- Whether a tree is a paragraph. -/
def Tree.isParagraph : Tree → Bool
  | .paragraph _ => true
  | _ => false

mutual

/-- The texts of the paragraphs and headings in a tree. -/
def Tree.texts : Tree → List Text
  | .paragraph text => [text]
  | .heading text _ => [text]
  | .rule => []
  | .list _ _ items => textsOfItems items
  | .quote children => textsOfAll children

/-- The texts in some trees. -/
def textsOfAll : List Tree → List Text
  | [] => []
  | tree :: others => tree.texts ++ textsOfAll others

/-- The texts in the items of a list. -/
def textsOfItems : List (List Tree) → List Text
  | [] => []
  | item :: others => textsOfAll item ++ textsOfItems others

end

mutual

/-- The texts of a tree that stand in quotes. -/
def Tree.quoted : Tree → List Text
  | .paragraph _ | .heading _ _ | .rule => []
  | .list _ _ items => quotedInItems items
  | .quote children => textsOfAll children

/-- The texts of some trees that stand in quotes. -/
def quotedInAll : List Tree → List Text
  | [] => []
  | tree :: others => tree.quoted ++ quotedInAll others

/-- The texts in the items of a list that stand in quotes. -/
def quotedInItems : List (List Tree) → List Text
  | [] => []
  | item :: others => quotedInAll item ++ quotedInItems others

end

/-! ### Rendering -/

mutual

/-- Renders a tree. -/
def Tree.render (options : Options) : Tree → RenderState → Text × RenderState
  | .paragraph text, state => Hook.paragraph state text
  | .heading text level, state => Hook.heading state text level
  | .rule, state => Hook.rule state options.xhtml
  | .list ordered start items, state =>
    let (content, after) := renderItems options items state
    Hook.list after content ordered start
  | .quote children, state =>
    let (content, after) := renderAll options children state
    Hook.quote after content

/-- Renders trees one after the other. -/
def renderAll (options : Options) : List Tree → RenderState → Text × RenderState
  | [], state => ([], state)
  | tree :: others, state =>
    let (markup, between) := tree.render options state
    let (rest, after) := renderAll options others between
    (markup ++ rest, after)

/-- Renders the items of a list. -/
def renderItems (options : Options) : List (List Tree) → RenderState → Text × RenderState
  | [], state => ([], state)
  | item :: others, state =>
    let (content, inner) := renderAll options item state
    let (markup, between) := Hook.listItem inner content
    let (rest, after) := renderItems options others between
    (markup ++ rest, after)

end

/-- Renders a document of some trees and closes the group that it leaves open. -/
def renderDocument (options : Options) (trees : List Tree) : Text :=
  let (content, after) := renderAll options trees (.fresh options.chapter)
  (after.finalize content).1

/-! ### Groups without markup -/

/-- The marker in front of a paragraph. -/
def opening (isOpen : Bool) : Option GroupMarker :=
  if isOpen then none else some .opener

/-- The marker in front of another block. -/
def closing (isOpen : Bool) : Option GroupMarker :=
  if isOpen then some .closer else none

/-- Whether a group is open behind some trees. -/
def openAfter (isOpen : Bool) : List Tree → Bool
  | [] => isOpen
  | tree :: others => openAfter tree.isParagraph others

/-- Whether a group is open behind the items of a list. -/
def openAfterItems (isOpen : Bool) : List (List Tree) → Bool
  | [] => isOpen
  | item :: others => openAfterItems (openAfter isOpen item) others

mutual

/-- The outline of a tree. The marker that a quote finds at the very start of its content is taken
out, and then it writes none itself. -/
def Tree.outline (isOpen : Bool) : Tree → Outline
  | .paragraph text => paragraphOutline (opening isOpen) text
  | .heading text _ => .ofMarker (closing isOpen) ++ .ofCitation (cites text)
  | .rule => .ofMarker (closing isOpen)
  | .list _ _ items =>
    .ofMarker (closing (openAfterItems isOpen items)) ++ outlineOfItems isOpen items
  | .quote [] => .ofMarker (closing isOpen) ++ Outline.empty.quote
  | .quote (first :: others) =>
    if first.isParagraph && !isOpen then
      (first.outline true ++ outlineOfAll true others).quote
    else
      .ofMarker (closing (openAfter isOpen (first :: others))) ++
        (first.outline isOpen ++ outlineOfAll first.isParagraph others).quote

/-- The outline of trees in a row. -/
def outlineOfAll (isOpen : Bool) : List Tree → Outline
  | [] => .empty
  | tree :: others => tree.outline isOpen ++ outlineOfAll tree.isParagraph others

/-- The outline of the items of a list. -/
def outlineOfItems (isOpen : Bool) : List (List Tree) → Outline
  | [] => .empty
  | item :: others => outlineOfAll isOpen item ++ outlineOfItems (openAfter isOpen item) others

end

/-- The group markers of a document of some trees. -/
def documentMarks (trees : List Tree) : List GroupMarker :=
  (outlineOfAll false trees).all ++ (closing (openAfter false trees)).toList

end Group

end BookMarkup
