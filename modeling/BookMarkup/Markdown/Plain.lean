/-
This file renders a short piece of Markdown as plain markup: in a dialect without tables,
tasks and footnotes, and without numbers, groups or figures.
-/

import BookMarkup.Html.Autolink
import BookMarkup.Markdown.BlockReader
import BookMarkup.Markdown.InlineReader

namespace BookMarkup

namespace Plain

open Markdown

/-! ### Text and targets -/

/-- A character of text. Single quotes are kept. -/
def escapeChar (c : Char) : Text :=
  if c = '\'' then ['\''] else Html.escapeChar c

/-- Escapes text. -/
def escape (text : Text) : Text :=
  text.flatMap escapeChar

/-- Text whose character references are decoded and escaped again. -/
def shown (source : Text) : Text :=
  escape (CharRef.decodeTerminated source)

/-- What a harmless target may start with. -/
def harmlessStarts : List Text :=
  ["http:", "https:", "mailto:", "tel:", "ftp:", "ftps:", "irc:", "ircs:", "data:image/gif;",
   "data:image/png;", "data:image/jpeg;", "data:image/webp;", "/", "#", "?"].map String.toList

/-- Whether a target is harmless: it starts with a scheme that is allowed or has none. -/
def isHarmless (target : Text) : Bool :=
  let decoded := Text.trimStart (Text.lower (Percent.decodeLossy target))
  harmlessStarts.any (fun start => start.isPrefixOf decoded) ||
    !(decoded.takeWhile (· != '/')).contains ':'

/-- A target as it stands in an attribute. A target that may do harm is replaced. -/
def shownTarget (target : Text) : Text :=
  if isHarmless target then shown target else "#harmful-link".toList

/-- The title attribute of a link or an image. -/
def titleAttribute : Option Text → Text
  | none | some [] => []
  | some title => " title=\"".toList ++ shown title ++ ['"']

/-- The alternative text of an image: its rendered content without what stands in angle
brackets. -/
def alternativeText (rendered : Text) : Text :=
  shown (Text.substitute Html.bracketPattern (fun _ => []) rendered)

/-- A content between the tags of an element. -/
def element (name content : Text) : Text :=
  ['<'] ++ name ++ ['>'] ++ content ++ "</".toList ++ name ++ ['>']

/-! ### Constructs -/

mutual

/-- The markup of an inline construct. -/
def renderInline : Inline → Text
  | .text source => shown source
  | .softBreak => ['\n']
  | .hardBreak => "<br />\n".toList
  | .code source => element "code".toList (escape source)
  | .html source => source
  | .emphasis children => element "em".toList (renderInlines children)
  | .strong children => element "strong".toList (renderInlines children)
  | .strikethrough children => element "del".toList (renderInlines children)
  | .link children target title =>
    "<a href=\"".toList ++ shownTarget target ++ ['"'] ++ titleAttribute title ++ ['>'] ++
      renderInlines children ++ "</a>".toList
  | .image children target title =>
    "<img src=\"".toList ++ shownTarget target ++ "\" alt=\"".toList ++
      alternativeText (renderInlines children) ++ ['"'] ++ titleAttribute title ++ " />".toList

/-- The markup of some inline constructs. -/
def renderInlines : List Inline → Text
  | [] => []
  | first :: others => renderInline first ++ renderInlines others

end

/-- The class attribute of code in a language. -/
def languageAttribute (info : Option Text) : Text :=
  match words (shown (info.getD [])) with
  | [] => []
  | language :: _ => " class=\"language-".toList ++ language ++ ['"']

/-- The markup of some blocks with the definitions of the whole. -/
def renderBlocks (definitions : List Definition) : List Block → Text
  | [] => []
  | .heading level source :: others =>
    element ('h' :: Text.ofNat level) (renderInlines (Inline.ofSource definitions source)) ++ ['\n'] ++
      renderBlocks definitions others
  | .paragraph source :: others =>
    element ['p'] (renderInlines (Inline.ofSource definitions source)) ++ ['\n'] ++
      renderBlocks definitions others
  | .bareText source :: others =>
    renderInlines (Inline.ofSource definitions source) ++ renderBlocks definitions others
  | .code source info :: others =>
    "<pre><code".toList ++ languageAttribute info ++ ['>'] ++ escape source ++
      "</code></pre>\n".toList ++ renderBlocks definitions others
  | .html source :: others => source ++ ['\n'] ++ renderBlocks definitions others
  | .rule :: others => "<hr />\n".toList ++ renderBlocks definitions others
  | .quote children :: others =>
    element "blockquote".toList (['\n'] ++ renderBlocks definitions children) ++ ['\n'] ++
      renderBlocks definitions others
  | .list start items :: others =>
    let content := renderBlocks definitions items
    let markup := match start with
      | none => "<ul>\n".toList ++ content ++ "</ul>\n".toList
      | some number =>
        "<ol".toList ++
          (if number = 1 then [] else " start=\"".toList ++ Text.ofNat number ++ ['"']) ++
          ">\n".toList ++ content ++ "</ol>\n".toList
    markup ++ renderBlocks definitions others
  | .item _ children :: others =>
    element "li".toList (renderBlocks definitions children) ++ ['\n'] ++
      renderBlocks definitions others
  | .table _ _ _ :: others => renderBlocks definitions others
  | .definition _ :: others => renderBlocks definitions others

/-- Renders a piece of Markdown. -/
def render (source : Text) : Text :=
  let blocks := Block.ofSource plainDialect source
  renderBlocks (definitionsIn blocks) blocks

end Plain

end BookMarkup
