/-
This file renders whole documents. A document is read into blocks, and one hook is
called for each construct in the order of the document, children before their parent.
At the end an open group of paragraphs is closed. Documents of a session share the
state of one renderer, but not the definitions of their references.
-/

import BookMarkup.Hook.Call

namespace BookMarkup

namespace Document

open Markdown

/-! ### Inline constructs -/

mutual

/-- Renders an inline construct. -/
def renderInline (setting : Setting) : Inline → Render Text
  | .text source => Call.run setting (.text source)
  | .softBreak => pure ['\n']
  | .hardBreak => Call.run setting .lineBreak
  | .code source => Call.run setting (.codeSpan source)
  | .html source => Call.run setting (.inlineHtml source)
  | .emphasis children => do
    let content ← renderInlines setting children
    Call.run setting (.emphasis content)
  | .strong children => do
    let content ← renderInlines setting children
    Call.run setting (.strong content)
  | .strikethrough children => do
    let content ← renderInlines setting children
    Call.run setting (.strikethrough content)
  | .link children target title => do
    let content ← renderInlines setting children
    Call.run setting (.link content target title)
  | .image children target title => do
    let content ← renderInlines setting children
    Call.run setting (.image content target title)

/-- Renders inline constructs one after the other. -/
def renderInlines (setting : Setting) : List Inline → Render Text
  | [] => pure []
  | first :: others => do
    let markup ← renderInline setting first
    let rest ← renderInlines setting others
    pure (markup ++ rest)

end

/-- Renders the source of a block. -/
def renderSource (setting : Setting) (definitions : List Definition) (source : Text) : Render Text :=
  renderInlines setting (orEmptyText (setting.tools.reader.inlines definitions source))

/-! ### Tables -/

/-- The word for an alignment. -/
def alignmentWord : ColumnAlignment → Text
  | .left => "left".toList
  | .center => "center".toList
  | .right => "right".toList

/-- Renders the cells of a row under the alignments of their columns. -/
def renderCells (setting : Setting) (definitions : List Definition) (head : Bool) :
    List (Option ColumnAlignment) → List Text → Render Text
  | _, [] => pure []
  | alignments, first :: others => do
    let content ← renderSource setting definitions first
    let align := (alignments.head?.getD none).map alignmentWord
    let cell ← Call.run setting (.tableCell content align head)
    let rest ← renderCells setting definitions head alignments.tail others
    pure (cell ++ rest)

/-- Renders the rows of the body of a table. -/
def renderRows (setting : Setting) (definitions : List Definition)
    (alignments : List (Option ColumnAlignment)) : List (List Text) → Render Text
  | [] => pure []
  | first :: others => do
    let cells ← renderCells setting definitions false alignments first
    let row ← Call.run setting (.tableRow cells)
    let rest ← renderRows setting definitions alignments others
    pure (row ++ rest)

/-- Renders a table. -/
def renderTable (setting : Setting) (definitions : List Definition)
    (alignments : List (Option ColumnAlignment)) (head : List Text) (rows : List (List Text)) :
    Render Text := do
  let cells ← renderCells setting definitions true alignments head
  let top ← Call.run setting (.tableHead cells)
  let content ← renderRows setting definitions alignments rows
  let body ← Call.run setting (.tableBody content)
  Call.run setting (.table (top ++ body))

/-! ### Blocks -/

mutual

/-- Renders a block. -/
def renderBlock (setting : Setting) (definitions : List Definition) : Block → Render Text
  | .heading level source => do
    let content ← renderSource setting definitions source
    Call.run setting (.heading content level)
  | .paragraph source => do
    let content ← renderSource setting definitions source
    Call.run setting (.paragraph content)
  | .bareText source => renderSource setting definitions source
  | .code source info => Call.run setting (.code source info)
  | .html source => Call.run setting (.html source)
  | .rule => Call.run setting .rule
  | .quote children => do
    let content ← renderBlocks setting definitions children
    Call.run setting (.quote content)
  | .list start items => do
    let content ← renderBlocks setting definitions items
    Call.run setting (.list content start.isSome (start.map Int.ofNat))
  | .item none children => do
    let content ← renderBlocks setting definitions children
    Call.run setting (.listItem content)
  | .item (some done) children => do
    let content ← renderBlocks setting definitions children
    Call.run setting (.taskItem content done)
  | .table alignments head rows => renderTable setting definitions alignments head rows
  | .definition _ => pure []

/-- Renders blocks one after the other. -/
def renderBlocks (setting : Setting) (definitions : List Definition) : List Block → Render Text
  | [] => pure []
  | first :: others => do
    let markup ← renderBlock setting definitions first
    let rest ← renderBlocks setting definitions others
    pure (markup ++ rest)

end

/-! ### Documents and sessions -/

/-- Renders a document and closes what it leaves open. -/
def render (setting : Setting) (source : Text) : Render Text := do
  let blocks := setting.tools.reader.blocks source
  let content ← renderBlocks setting (definitionsIn blocks) blocks
  Call.run setting (.finalize content)

/-- Renders a document from the start of its chapter. -/
def renderAlone (setting : Setting) (source : Text) : Outcome Text :=
  render setting source (.fresh setting.options.chapter)

/-- Renders the documents of a session from a state; one that fails does not end the session. -/
def renderFrom (setting : Setting) (state : RenderState) : List Text → List (Outcome Text)
  | [] => []
  | first :: others =>
    let outcome := render setting first state
    outcome :: renderFrom setting outcome.state others

/-- Renders the documents of a session. -/
def renderSession (setting : Setting) (sources : List Text) : List (Outcome Text) :=
  renderFrom setting (.fresh setting.options.chapter) sources

end Document

end BookMarkup
