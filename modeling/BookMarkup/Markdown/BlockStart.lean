/-
This file recognises how blocks start. Given the line behind the containers that are
open already, it says which container or block the line starts, if any; a line that
starts none belongs to a paragraph.
-/

import BookMarkup.Markdown.Indent
import BookMarkup.Markdown.Tag
import BookMarkup.Markdown.Target
import BookMarkup.Text.Word

namespace BookMarkup

namespace Markdown

/-! ### Headings and rules -/

/-- Whether a text holds only spaces and tabs. -/
def isSpaces (text : Text) : Bool :=
  text.all fun c => c == ' ' || c == '\t'

/-- A text without the spaces and tabs at its ends. -/
def trimSpaces (text : Text) : Text :=
  Text.dropEndWhile (fun c => c == ' ' || c == '\t') (text.dropWhile fun c => c == ' ' || c == '\t')

/-- The text of a heading without the number signs that close it. They count only behind a blank
or when there is nothing else. -/
def dropClosingSigns (text : Text) : Text :=
  let trimmed := trimSpaces text
  let opened := Text.dropEndWhile (· == '#') trimmed
  if opened.isEmpty then []
  else if opened.length < trimmed.length && opened.getLast?.any (fun c => c == ' ' || c == '\t') then
    trimSpaces opened
  else trimmed

/-- The level and the text of a heading that number signs start. -/
def heading? (text : Text) : Option (Nat × Text) :=
  let level := (text.takeWhile (· == '#')).length
  let rest := text.drop level
  if 1 ≤ level && level ≤ 6 && rest.head?.all (fun c => c == ' ' || c == '\t') then
    some (level, dropClosingSigns rest)
  else none

/-- The level of the heading that an underline makes of the paragraph above. -/
def underlineLevel? (text : Text) : Option Nat :=
  match text with
  | '=' :: _ => if isSpaces (text.dropWhile (· == '=')) then some 1 else none
  | '-' :: _ => if isSpaces (text.dropWhile (· == '-')) then some 2 else none
  | _ => none

/-- Whether a text is a rule: three or more of one sign with only blanks between them. -/
def isRule (text : Text) : Bool :=
  let signs := text.filter fun c => !(c == ' ' || c == '\t')
  match text with
  | first :: _ =>
    (first == '*' || first == '-' || first == '_') && 3 ≤ signs.length && signs.all (· == first)
  | [] => false

/-! ### Code and raw HTML -/

/-- A fence: its indent, its character, its width and the text behind it. -/
structure Fence where
  /-- How many columns the fence is indented. -/
  indent : Nat
  /-- The character that it is made of. -/
  character : Char
  /-- How many of them there are. -/
  width : Nat
  /-- The text behind the fence. -/
  info : Text
  deriving DecidableEq, Repr

/-- The fence at the front of a text. The text behind back ticks holds none. -/
def fence? (indent : Nat) (text : Text) : Option Fence :=
  match text with
  | first :: _ =>
    let width := (text.takeWhile (· == first)).length
    let info := text.drop width
    if 3 ≤ width && (first == '~' || (first == '\x60' && !info.contains '\x60')) then
      some ⟨indent, first, width, Text.trim (unescape info)⟩
    else none
  | [] => none

/-- Whether a text closes a fence. -/
def closesFence (fence : Fence) (text : Text) : Bool :=
  let signs := text.takeWhile (· == fence.character)
  fence.width ≤ signs.length && isSpaces (text.drop signs.length)

/-- How a block of raw HTML ends. -/
inductive HtmlEnd where
  /-- With a line that holds one of these texts in either case. -/
  | behindText (endings : List Text)
  /-- In front of a blank line. -/
  | blankLine
  deriving DecidableEq, Repr

/-- The elements whose content is no Markdown up to their end tag. -/
def rawElements : List Text :=
  ["script".toList, "pre".toList, "style".toList, "textarea".toList]

/-- The elements whose tags start a block of raw HTML. -/
def blockElements : List Text :=
  ["address", "article", "aside", "base", "basefont", "blockquote", "body", "caption", "center",
   "col", "colgroup", "dd", "details", "dialog", "dir", "div", "dl", "dt", "fieldset", "figcaption",
   "figure", "footer", "form", "frame", "frameset", "h1", "h2", "h3", "h4", "h5", "h6", "head",
   "header", "hr", "html", "iframe", "legend", "li", "link", "main", "menu", "menuitem", "nav",
   "noframes", "ol", "optgroup", "option", "p", "param", "search", "section", "summary", "table",
   "tbody", "td", "tfoot", "th", "thead", "title", "tr", "track", "ul"].map String.toList

/-- The tag name at the front of a text, in small letters, and the rest behind it. -/
def tagName (text : Text) : Text × Text :=
  (Text.lower (text.takeWhile isTagNameChar), text.dropWhile isTagNameChar)

/-- Whether a tag name ends in front of a text. -/
def endsTagName (behind : Text) : Bool :=
  behind.head?.all fun c => isBlank c || c == '>'

/-- Whether the tag whose bracket was read fills its line. -/
def fillsLine (text : Text) : Bool :=
  let behind := match text with
    | '/' :: rest => afterEndTag? rest
    | _ => afterStartTag? text
  behind.any (·.all isBlank)

/-- How the block of raw HTML ends that a text starts, if it starts one. A tag that is not known
as a block starts one only when it fills its line and interrupts no paragraph. -/
def htmlStart? (interrupts : Bool) (text : Text) : Option HtmlEnd :=
  match text with
  | '<' :: rest =>
    let (name, behind) := tagName rest
    let (blockName, blockBehind) := tagName ((Text.after? ['/'] rest).getD rest)
    if rawElements.contains name && endsTagName behind then
      some (.behindText (rawElements.map fun element => "</".toList ++ element ++ ['>']))
    else if "!--".toList.isPrefixOf rest then some (.behindText ["-->".toList])
    else if ['?'].isPrefixOf rest then some (.behindText ["?>".toList])
    else if "![CDATA[".toList.isPrefixOf rest then some (.behindText ["]]>".toList])
    else if ['!'].isPrefixOf rest && (rest.drop 1).head?.any Char.isAlpha then
      some (.behindText [['>']])
    else if blockElements.contains blockName &&
        (endsTagName blockBehind || "/>".toList.isPrefixOf blockBehind) then
      some .blankLine
    else if !interrupts && fillsLine rest then some .blankLine
    else none
  | _ => none

/-- Whether a line ends the block of raw HTML that it is in. -/
def endsHtml (ending : HtmlEnd) (text : Text) : Bool :=
  match ending with
  | .behindText endings => endings.any fun closing => Text.occursIn closing (Text.lower text)
  | .blankLine => false

/-! ### List items -/

/-- The marker of a list item: items with the same marker are in one list. -/
inductive Marker where
  /-- A bullet character. -/
  | bullet (character : Char)
  /-- The character behind a number. -/
  | number (delimiter : Char)
  deriving DecidableEq, Repr

/-- The marker at the front of a text, the number in it and how many characters it takes. -/
def marker? (text : Text) : Option (Marker × Nat × Nat) :=
  let digits := text.takeWhile Char.isDigit
  let behind := text.drop digits.length
  let found : Option (Marker × Nat × Nat) :=
    if digits.isEmpty then
      match text with
      | c :: _ => if c == '*' || c == '+' || c == '-' then some (.bullet c, 0, 1) else none
      | [] => none
    else
      match behind with
      | c :: _ =>
        if digits.length ≤ 9 && (c == '.' || c == ')') then
          some (.number c, digits.foldl (fun n d => n * 10 + (d.toNat - 0x30)) 0, digits.length + 1)
        else none
      | [] => none
  found.filter fun (_, _, width) => (text.drop width).head?.all fun c => c == ' ' || c == '\t'

/-! ### Starts -/

/-- What a line starts. -/
inductive Start where
  /-- A quote, with the line inside it. -/
  | quote (inside : Line)
  /-- A list item: its marker, its number, how far its content is indented, and the line inside
  it. -/
  | item (marker : Marker) (number content : Nat) (inside : Line)
  | heading (level : Nat) (source : Text)
  | rule
  | fence (fence : Fence)
  | html (ending : HtmlEnd)
  /-- Indented code. -/
  | indented
  deriving DecidableEq, Repr

/-- What paragraphs stand in the way of a line that wants to start a block. -/
structure Surroundings where
  /-- Whether the line could belong to an open paragraph at all. -/
  lazy : Bool
  /-- Whether that paragraph is in the container that the line is in. -/
  direct : Bool
  deriving DecidableEq, Repr

/-- The line inside a quote that a line starts or continues. -/
def insideQuote? (line : Line) : Option Line :=
  let inner := line.dropIndent
  if line.indent < 4 && inner.rest.head? == some '>' then some ((inner.dropChars 1).dropColumns 1)
  else none

/-- The item that a line starts. Only an item that has content and, if it is numbered, starts with
one interrupts a paragraph. -/
def item? (surroundings : Surroundings) (line : Line) : Option Start :=
  let inner := line.dropIndent
  match marker? inner.rest with
  | none => none
  | some (marker, number, width) =>
    let behind := inner.dropChars width
    let isEmpty := behind.isBlankLine
    let isNumbered := match marker with
      | .number _ => true
      | .bullet _ => false
    if surroundings.direct && (isEmpty || (isNumbered && number != 1)) then none
    else
      let gap := if isEmpty || 5 ≤ behind.indent then 1 else behind.indent
      some (.item marker number (line.indent + width + gap) (behind.dropColumns gap))

/-- What a line that is not blank starts. -/
def start? (surroundings : Surroundings) (line : Line) : Option Start :=
  let text := line.dropIndent.rest
  if 4 ≤ line.indent then (if surroundings.lazy then none else some .indented)
  else
    match insideQuote? line with
    | some inside => some (.quote inside)
    | none =>
      match heading? text with
      | some (level, source) => some (.heading level source)
      | none =>
        match fence? line.indent text with
        | some fence => some (.fence fence)
        | none =>
          match htmlStart? surroundings.lazy text with
          | some ending => some (.html ending)
          | none => if isRule text then some .rule else item? surroundings line

end Markdown

end BookMarkup
