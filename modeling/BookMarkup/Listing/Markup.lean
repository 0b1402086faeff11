/-
This file writes a code listing. The first word behind the fence names its language. A
listing without a language is plain, one of ASCII art is shown as it is, and every
other one is highlighted and laid out in numbered rows.
-/

import BookMarkup.Listing.Row

namespace BookMarkup

namespace Listing

/-- The language that the text behind a fence names: its characters up to the first blank. -/
def languageOf (info : Option Text) : Text :=
  (info.getD []).takeWhile fun c => !isBlank c

/-- A listing without a language. -/
def renderPlain (code : Text) : Text :=
  "<div class=\"code\"><pre>".toList ++ Html.escapeAll code ++ "</pre></div>\n".toList

/-- A listing of ASCII art, in which only the start of a tag is escaped. -/
def renderAsciiArt (code : Text) : Text :=
  "<div class=\"code code-ascii\"><pre>".toList ++ Text.replaceChar '<' "&lt;".toList code ++
    "</pre></div>\n".toList

/-- A highlighted listing in a language. -/
def renderHighlighted (lexers : Lexers) (tabReplacement language code : Text) : Text :=
  "<div class=\"code code-".toList ++ Html.escapeAll language ++
    "\">\n<table class=\"code-table\">\n".toList ++
    renderRows (highlight { tabReplacement } lexers [language] code) ++
    "</table>\n</div>\n".toList

/-- The markup of a code listing with the text behind its fence. -/
def render (lexers : Lexers) (tabReplacement : Text) (info : Option Text) (code : Text) : Text :=
  let language := languageOf info
  if language.isEmpty then renderPlain code
  else if language = "ascii".toList then renderAsciiArt code
  else renderHighlighted lexers tabReplacement language code

end Listing

end BookMarkup
