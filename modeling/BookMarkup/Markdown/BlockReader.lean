/-
This file reads the blocks of a document line by line. The containers that are open
form a chain of frames, each of which holds the blocks that are finished and, at its
end, either the next frame or the block that is being read. A line passes through the
frames that it continues. Where the chain breaks, the line starts new blocks, or
continues an open paragraph all the same, or starts a paragraph.
-/

import BookMarkup.Markdown.BlockStart
import BookMarkup.Markdown.Table

namespace BookMarkup

namespace Markdown

/-! ### Frames -/

/-- The block that is being read at the end of a frame; lines are kept from the last to the
first. -/
inductive Leaf where
  /-- No block. -/
  | empty
  | paragraph (lines : List Text)
  | fenced (fence : Fence) (lines : List Text)
  | indented (lines : List Text)
  | html (ending : HtmlEnd) (lines : List Text)
  | table (alignments : List (Option ColumnAlignment)) (head : List Text) (rows : List (List Text))
  deriving Repr

/-- A part of a container: a block, or a blank line between blocks. -/
inductive Part where
  | block (block : Block)
  | gap
  deriving Repr

/-- A finished item of a list. -/
structure FinishedItem where
  /-- The parts of the item in order. -/
  parts : List Part
  deriving Repr

/-- What a frame is. -/
inductive Kind where
  /-- The whole document. -/
  | document
  | quote
  /-- An item of a list with its marker, the first number of the list, how far the content is
  indented, and the items before it from the last to the first. An ended item takes no more
  lines. -/
  | item (marker : Marker) (first content : Nat) (ended : Bool) (earlier : List FinishedItem)
  deriving Repr

/-- A container that is open; its finished parts are kept from the last to the first. -/
inductive Frame where
  /-- A container at whose end a block is being read. -/
  | resting (kind : Kind) (parts : List Part) (leaf : Leaf)
  /-- A container at whose end another container is open. -/
  | holding (kind : Kind) (parts : List Part) (child : Frame)
  deriving Repr

/-- What a frame is. -/
def Frame.kind : Frame → Kind
  | .resting kind _ _ => kind
  | .holding kind _ _ => kind

/-! ### Finishing blocks -/

/-- Drops the newlines at both ends of a text. -/
def trimNewlines (text : Text) : Text :=
  Text.dropEndWhile (· == '\n') (text.dropWhile (· == '\n'))

/-- The definitions at the front of a paragraph, and what is left of it. Each of at most `fuel`
definitions takes at least one line. -/
def takeDefinitions (footnotes : Bool) : Nat → Text → List Definition × Text
  | 0, source => ([], source)
  | fuel + 1, source =>
    match definition? footnotes source with
    | none => ([], source)
    | some (definition, rest) =>
      let (others, remaining) := takeDefinitions footnotes fuel rest
      (definition :: others, remaining)

/-- A text without the spaces, tabs, line ends and form feeds at its ends. Wider blanks belong to
a paragraph. -/
def trimMargins (text : Text) : Text :=
  let isMargin := fun c : Char => isGap c || c == '\x0C'
  Text.dropEndWhile isMargin (text.dropWhile isMargin)

/-- The definitions and the source of a paragraph with some lines. -/
def paragraphOf (dialect : Dialect) (lines : List Text) : List Definition × Text :=
  let (definitions, rest) :=
    takeDefinitions dialect.footnotes lines.length (Text.join ['\n'] lines.reverse)
  (definitions, trimMargins rest)

/-- The parts that a finished paragraph gives, from the last to the first. -/
def paragraphParts (dialect : Dialect) (lines : List Text) : List Part :=
  let (definitions, source) := paragraphOf dialect lines
  let defined := (definitions.map fun definition => Part.block (.definition definition)).reverse
  if source.isEmpty then defined else .block (.paragraph source) :: defined

/-- The parts that a finished leaf gives, from the last to the first. -/
def Leaf.finish (dialect : Dialect) : Leaf → List Part
  | .empty => []
  | .paragraph lines => paragraphParts dialect lines
  | .fenced fence lines =>
    let code := lines.reverse.flatMap fun line => line ++ ['\n']
    [.block (.code code (if fence.info.isEmpty then none else some fence.info))]
  | .indented lines =>
    let ends := lines.takeWhile isSpaces
    let code := Text.join ['\n'] (lines.drop ends.length).reverse
    let block := Part.block (.code (trimNewlines code) none)
    if ends.isEmpty then [block] else [.gap, block]
  | .html _ lines => [.block (.html (lines.reverse.flatMap fun line => line ++ ['\n']))]
  | .table alignments head rows => [.block (.table alignments head rows.reverse)]

/-- The blocks among some parts. -/
def blocksOf (parts : List Part) : List Block :=
  parts.filterMap fun part =>
    match part with
    | .block block => some block
    | .gap => none

/-- Whether a part is a blank line. -/
def Part.isGap : Part → Bool
  | .gap => true
  | .block _ => false

/-- Whether a blank line stands between two blocks. -/
def hasInnerGap (parts : List Part) : Bool :=
  let started := parts.dropWhile Part.isGap
  (started.reverse.dropWhile Part.isGap).any Part.isGap

/-- Whether the parts end in a blank line. -/
def endsInGap (parts : List Part) : Bool :=
  parts.getLast?.any Part.isGap

/-- Whether a list with some items has blank lines between its items or inside one of them. -/
def isLoose : List FinishedItem → Bool
  | [] => false
  | [last] => hasInnerGap last.parts
  | first :: second :: others =>
    hasInnerGap first.parts || endsInGap first.parts || isLoose (second :: others)

/-- The paragraphs of an item without blank lines are bare text. -/
def bare : Block → Block
  | .paragraph source => .bareText source
  | block => block

/-- The state of a check box in front of a text, and the text behind it. -/
def task? (source : Text) : Option (Bool × Text) :=
  match source with
  | '[' :: mark :: ']' :: rest =>
    if (mark == ' ' || mark == 'x' || mark == 'X') && rest.head?.any isBlank then
      some (mark != ' ', Text.trimStart rest)
    else none
  | _ => none

/-- An item with some blocks. Where there are tasks, a check box in front of the first block makes
it one. -/
def itemOf (tasks : Bool) (blocks : List Block) : Block :=
  let plain := Block.item none blocks
  if !tasks then plain
  else
    match blocks with
    | .paragraph source :: others =>
      match task? source with
      | some (done, rest) => .item (some done) (.paragraph rest :: others)
      | none => plain
    | .bareText source :: others =>
      match task? source with
      | some (done, rest) => .item (some done) (.bareText rest :: others)
      | none => plain
    | .heading level source :: others =>
      match task? source with
      | some (done, rest) => .item (some done) (.heading level rest :: others)
      | none => plain
    | _ => plain

/-- The list of some finished items. -/
def listOf (dialect : Dialect) (marker : Marker) (first : Nat) (items : List FinishedItem) : Block :=
  let loose := isLoose items
  let start := match marker with
    | .number _ => some first
    | .bullet _ => none
  .list start (items.map fun item =>
    let blocks := blocksOf item.parts
    itemOf dialect.tasks (if loose then blocks else blocks.map bare))

/-- What a finished frame with some parts in order adds to the frame around it, from the last part
to the first. A blank line at the end of a list stands behind the list. -/
def Kind.finish (dialect : Dialect) (parts : List Part) : Kind → List Part
  | .document => parts.reverse
  | .quote => [.block (.quote (blocksOf parts))]
  | .item marker first _ _ earlier =>
    let block := Part.block (listOf dialect marker first (⟨parts⟩ :: earlier).reverse)
    if endsInGap parts then [.gap, block] else [block]

/-- What a finished frame adds to the frame around it, from the last part to the first. -/
def Frame.finish (dialect : Dialect) : Frame → List Part
  | .resting kind parts leaf => kind.finish dialect (leaf.finish dialect ++ parts).reverse
  | .holding kind parts child => kind.finish dialect (child.finish dialect ++ parts).reverse

/-- The parts inside a frame in order, once everything in it is finished. -/
def Frame.contents (dialect : Dialect) : Frame → List Part
  | .resting _ parts leaf => (leaf.finish dialect ++ parts).reverse
  | .holding _ parts child => (child.finish dialect ++ parts).reverse

/-! ### Open paragraphs and items -/

/-- Whether a paragraph is open at the end of a chain of frames. -/
def Frame.endsInParagraph : Frame → Bool
  | .resting _ _ (.paragraph _) => true
  | .resting _ _ _ => false
  | .holding _ _ child => child.endsInParagraph

/-- Adds a line to the paragraph at the end of a chain of frames. -/
def Frame.continueParagraph (text : Text) : Frame → Frame
  | .resting kind parts (.paragraph lines) => .resting kind parts (.paragraph (text :: lines))
  | .resting kind parts leaf => .resting kind parts leaf
  | .holding kind parts child => .holding kind parts (child.continueParagraph text)

/-- Whether a frame holds nothing yet. -/
def Frame.isFresh : Frame → Bool
  | .resting _ [] .empty => true
  | _ => false

/-- The line inside a frame that a line continues. A blank line continues every item that holds
something, and no quote. -/
def Frame.inside? (frame : Frame) (line : Line) : Option Line :=
  match frame.kind with
  | .document => some line
  | .quote => insideQuote? line
  | .item _ _ content ended _ =>
    if ended then none
    else if line.isBlankLine then
      if frame.isFresh then none else some (line.dropColumns content)
    else if content ≤ line.indent then some (line.dropColumns content)
    else none

/-- What an item behind a frame is, if that frame is an item of the same list: one with the same
marker. -/
def nextItem? (dialect : Dialect) (frame : Frame) (marker : Marker) (content : Nat) : Option Kind :=
  match frame.kind with
  | .item sameMarker first _ _ earlier =>
    if marker = sameMarker then
      some (.item marker first content false (⟨frame.contents dialect⟩ :: earlier))
    else none
  | _ => none

/-! ### Adding lines -/

/-- Starts what a line starts in a container with some finished parts and no open block. At most
`fuel` containers are started inside each other. -/
def startIn : Nat → Surroundings → Kind → List Part → Line → Frame
  | 0, _, kind, parts, line => .resting kind parts (.paragraph [line.dropIndent.rest])
  | fuel + 1, surroundings, kind, parts, line =>
    if line.isBlankLine then .resting kind parts .empty
    else
      match start? surroundings line with
      | none => .resting kind parts (.paragraph [line.dropIndent.rest])
      | some (.quote inside) => .holding kind parts (startIn fuel ⟨false, false⟩ .quote [] inside)
      | some (.item marker number content inside) =>
        .holding kind parts
          (startIn fuel ⟨false, false⟩ (.item marker number content false []) [] inside)
      | some (.heading level source) =>
        .resting kind (.block (.heading level source) :: parts) .empty
      | some .rule => .resting kind (.block .rule :: parts) .empty
      | some (.fence fence) => .resting kind parts (.fenced fence [])
      | some (.html ending) =>
        if endsHtml ending line.rest then
          .resting kind (.block (.html (line.rest ++ ['\n'])) :: parts) .empty
        else .resting kind parts (.html ending [line.rest])
      | some .indented => .resting kind parts (.indented [(line.dropColumns 4).rest])

/-- How many containers a line can start. -/
def startLimit (line : Line) : Nat :=
  line.rest.length + 1

/-- Adds a line to the paragraph at the end of a frame. -/
def addToParagraph (dialect : Dialect) (kind : Kind) (parts : List Part) (lines : List Text)
    (line : Line) : Frame :=
  let text := line.dropIndent.rest
  let finished := paragraphParts dialect lines ++ parts
  if line.isBlankLine then .resting kind (.gap :: finished) .empty
  else
    let (definitions, source) := paragraphOf dialect lines
    let underline := if line.indent < 4 && !source.isEmpty then underlineLevel? text else none
    match underline with
    | some level =>
      let defined := (definitions.map fun definition => Part.block (.definition definition)).reverse
      .resting kind (.block (.heading level source) :: (defined ++ parts)) .empty
    | none =>
      let inDocument := match kind with
        | .document => true
        | _ => false
      let table :=
        if dialect.tables && inDocument && line.indent < 4 then tableHead? (lines.headD []) text
        else none
      match table with
      | some (head, alignments) =>
        .resting kind (paragraphParts dialect (lines.drop 1) ++ parts) (.table alignments head [])
      | none =>
        match start? ⟨true, true⟩ line with
        | none => .resting kind parts (.paragraph (text :: lines))
        | some _ => startIn (startLimit line) ⟨true, true⟩ kind finished line

/-- Adds a line to the block at the end of a frame. -/
def addToLeaf (dialect : Dialect) (kind : Kind) (parts : List Part) (leaf : Leaf) (line : Line) :
    Frame :=
  let finished := leaf.finish dialect ++ parts
  let restart := startIn (startLimit line) ⟨false, false⟩ kind finished line
  match leaf with
  | .empty => if line.isBlankLine then .resting kind (.gap :: parts) .empty else restart
  | .paragraph lines => addToParagraph dialect kind parts lines line
  | .fenced fence lines =>
    if line.indent < 4 && closesFence fence line.dropIndent.rest then .resting kind finished .empty
    else .resting kind parts (.fenced fence ((line.dropColumns fence.indent).rest :: lines))
  | .indented lines =>
    if line.isBlankLine || 4 ≤ line.indent then
      .resting kind parts (.indented ((line.dropColumns 4).rest :: lines))
    else restart
  | .html ending lines =>
    if ending = .blankLine && line.isBlankLine then .resting kind (.gap :: finished) .empty
    else
      let grown := Leaf.html ending (line.rest :: lines)
      if endsHtml ending line.rest then .resting kind (grown.finish dialect ++ parts) .empty
      else .resting kind parts grown
  | .table alignments head rows =>
    if line.isBlankLine then .resting kind (.gap :: finished) .empty
    else if (start? ⟨false, false⟩ line).isNone && hasBar line.rest then
      .resting kind parts (.table alignments head (rowCells alignments.length line.rest :: rows))
    else restart

/-- Adds a line that does not continue the frame at the end of another one. -/
def addBehind (dialect : Dialect) (kind : Kind) (parts : List Part) (child : Frame) (line : Line) :
    Frame :=
  let finished := child.finish dialect ++ parts
  if line.isBlankLine then
    match child with
    | .resting (.item marker first content _ earlier) inner leaf =>
      .holding kind parts
        (.resting (.item marker first content true earlier) (.gap :: inner) leaf)
    | _ => .resting kind (.gap :: finished) .empty
  else
    let surroundings : Surroundings := ⟨child.endsInParagraph, false⟩
    match start? surroundings line with
    | none =>
      if surroundings.lazy then
        .holding kind parts (child.continueParagraph line.dropIndent.rest)
      else .resting kind finished (.paragraph [line.dropIndent.rest])
    | some (.item marker _ content inside) =>
      match nextItem? dialect child marker content with
      | some next =>
        .holding kind parts (startIn (startLimit line) ⟨false, false⟩ next [] inside)
      | none => startIn (startLimit line) surroundings kind finished line
    | some _ => startIn (startLimit line) surroundings kind finished line

/-- Adds a line to a frame that it continues. -/
def Frame.addLine (dialect : Dialect) : Frame → Line → Frame
  | .resting kind parts leaf, line => addToLeaf dialect kind parts leaf line
  | .holding kind parts child, line =>
    match child.inside? line with
    | some inside => .holding kind parts (child.addLine dialect inside)
    | none => addBehind dialect kind parts child line

/-! ### Documents -/

/-- The lines of a source. A final line end does not start another line. -/
def sourceLinesOf (source : Text) : List Text :=
  let lines := Text.lines (Text.unifyLineEnds source)
  if lines.getLast? = some [] then lines.dropLast else lines

/-- The blocks of a source. -/
def Block.ofSource (dialect : Dialect) (source : Text) : List Block :=
  let document := (sourceLinesOf source).foldl
    (fun frame line => frame.addLine dialect ⟨0, line⟩) (Frame.resting .document [] .empty)
  blocksOf (document.contents dialect)

end Markdown

end BookMarkup
