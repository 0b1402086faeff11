/-
This file renders the block constructs of a document. Every hook enters its construct
first and writes the group marker that this gives in front of its markup; only the parts
of a table stay out of the state, because they are rendered before their table.
-/

import BookMarkup.Footnote
import BookMarkup.Heading.Marker
import BookMarkup.Html.Autolink
import BookMarkup.Listing.Markup
import BookMarkup.Quote
import BookMarkup.RenderState

namespace BookMarkup

namespace Hook

/-- Enters a construct and puts its group marker in front of markup. -/
def emit (state : RenderState) (construct : Construct) (markup : Text) : Text × RenderState :=
  let (marker, after) := state.enter construct none
  (markerHtml marker ++ markup, after)

/-- How a void element is closed. -/
def voidEnd (xhtml : Bool) : Text :=
  if xhtml then " /".toList else []

/-! ### Headings and paragraphs -/

/-- The markup of a heading with its number. The number links to itself; an identifier at the end
of the text becomes that of the element, and the text links to it. -/
def headingMarkup (number : Text) (level : Int) (text : Text) : Text :=
  let (idAttribute, title) := match Heading.marked? text with
    | some marked =>
      (" id=\"".toList ++ marked.identifier ++ ['"'],
        "<a href=\"#".toList ++ marked.identifier ++ "\">".toList ++ marked.text ++ "</a>".toList)
    | none => ([], text)
  "\n<h".toList ++ Text.ofInt level ++ idAttribute ++ "><span id=\"".toList ++ number ++
    "\"><a href=\"#".toList ++ number ++ "\">".toList ++ number ++ "</a></span> ".toList ++ title ++
    "</h".toList ++ Text.ofInt level ++ ">\n".toList

/-- Renders a heading with the number that it gets. -/
def heading (state : RenderState) (text : Text) (level : Int) : Text × RenderState :=
  let (marker, after) := state.enter .heading (some level)
  (markerHtml marker ++ headingMarkup (after.headingNumber level) level text, after)

/-- The tags that inline content may start with. -/
def inlineStarts : List Text :=
  ["<em".toList, "<del".toList, "<a ".toList, "<strong".toList]

/-- Whether the text of a paragraph is a block already: it starts with a tag that is none of those
of inline content. -/
def isRawBlock (text : Text) : Bool :=
  let stripped := Text.trim text
  stripped.head? == some '<' && !inlineStarts.any fun start => start.isPrefixOf stripped

/-- The markup of a paragraph: a block as it is, a footnote, or a paragraph element. -/
def paragraphMarkup (text : Text) : Text :=
  if isRawBlock text then text
  else if Footnote.isNote text then
    "<span class=\"footnote\">".toList ++ Footnote.interpolateNote text ++ "</span>\n".toList
  else "<p>".toList ++ text ++ "</p>\n".toList

/-- Renders a paragraph. -/
def paragraph (state : RenderState) (text : Text) : Text × RenderState :=
  emit state .paragraph (paragraphMarkup text)

/-! ### Quotes -/

/-- The footer of a quote with its citation. -/
def citationFooter : Option Text → Text
  | none => []
  | some citation => Html.autolink ("<footer>".toList ++ citation ++ "</footer>".toList)

/-- The markup of a quote behind its group marker. -/
def quoteMarkup (text : Text) : Text :=
  let cited := Quote.split text
  "<blockquote>\n<p>".toList ++ Quote.stripMarks cited.body ++ "</p>".toList ++
    citationFooter cited.citation ++ "</blockquote>\n".toList

/-- Renders a quote. A group that the first paragraph of the quote opened is taken out again:
quotes take no part in grouping. -/
def quote (state : RenderState) (text : Text) : Text × RenderState :=
  let (inner, before) := match Text.after? GroupMarker.opener.html text with
    | some rest => (rest, state.discardGroup)
    | none => (text, state)
  let (marker, after) := before.enter .quote none
  (['\n'] ++ markerHtml marker ++ quoteMarkup inner, after)

/-! ### Code, raw HTML and rules -/

/-- Renders a code listing without the newline at its end. -/
def code (state : RenderState) (lexers : Listing.Lexers) (tabReplacement source : Text)
    (info : Option Text) : Text × RenderState :=
  emit state .code
    (Listing.render lexers tabReplacement info ((Text.before? ['\n'] source).getD source))

/-- Renders a block of raw HTML. -/
def html (state : RenderState) (source : Text) : Text × RenderState :=
  emit state .html source

/-- Renders a rule. -/
def rule (state : RenderState) (xhtml : Bool) : Text × RenderState :=
  emit state .rule ("<hr".toList ++ voidEnd xhtml ++ ">\n".toList)

/-! ### Lists -/

/-- The attribute of an ordered list that does not start with one. -/
def startAttribute (ordered : Bool) (start : Option Int) : Text :=
  match start with
  | none => []
  | some number =>
    if ordered && number != 1 then " start=\"".toList ++ Text.ofInt number ++ ['"'] else []

/-- Renders a list of rendered items. -/
def list (state : RenderState) (text : Text) (ordered : Bool) (start : Option Int) :
    Text × RenderState :=
  let name := if ordered then "ol".toList else "ul".toList
  emit state .list
    (['<'] ++ name ++ startAttribute ordered start ++ ">\n".toList ++ text ++ "</".toList ++ name ++
      ">\n".toList)

/-- Renders an item of a list. -/
def listItem (state : RenderState) (text : Text) : Text × RenderState :=
  emit state .listItem ("<li>".toList ++ text ++ "</li>\n".toList)

/-- Renders a check box. -/
def checkbox (state : RenderState) (xhtml checked : Bool) : Text × RenderState :=
  emit state .checkbox
    ("<input ".toList ++ (if checked then "checked=\"\" ".toList else []) ++
      "disabled=\"\" type=\"checkbox\"".toList ++ voidEnd xhtml ++ "> ".toList)

/-- Renders an item of a list with a check box. -/
def taskItem (state : RenderState) (xhtml : Bool) (text : Text) (checked : Bool) :
    Text × RenderState :=
  let (box, after) := checkbox state xhtml checked
  listItem after (box ++ text)

/-! ### Tables -/

/-- Renders a table with its head and its body. -/
def table (state : RenderState) (text : Text) : Text × RenderState :=
  emit state .table ("<table>\n".toList ++ text ++ "</table>\n".toList)

/-- The head of a table with its cells. -/
def tableHead (text : Text) : Text :=
  "<thead>\n<tr>\n".toList ++ text ++ "</tr>\n</thead>\n".toList

/-- The body of a table with its rows. -/
def tableBody (text : Text) : Text :=
  "<tbody>\n".toList ++ text ++ "</tbody>\n".toList

/-- A row of a table with its cells. -/
def tableRow (text : Text) : Text :=
  "<tr>\n".toList ++ text ++ "</tr>\n".toList

/-- The attribute of a cell that is aligned. -/
def alignAttribute : Option Text → Text
  | none | some [] => []
  | some align => " style=\"text-align:".toList ++ align ++ ['"']

/-- A cell of a table. -/
def tableCell (text : Text) (align : Option Text) (head : Bool) : Text :=
  let name := if head then "th".toList else "td".toList
  ['<'] ++ name ++ alignAttribute align ++ ['>'] ++ text ++ "</".toList ++ name ++ ">\n".toList

end Hook

end BookMarkup
