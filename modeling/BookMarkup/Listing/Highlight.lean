/-
This file writes tokens as highlighted markup. The texts of neighbouring tokens of the same
category are kept pending and written together, as one run. The text of a run is escaped,
its tabs are replaced, and each line of it that is not empty is wrapped in a span of the
category, so that no span crosses a line end.
-/

import BookMarkup.Html.Escape
import BookMarkup.Listing.Lexer

namespace BookMarkup

namespace Listing

/-- How highlighted markup is written. -/
structure Style where
  /-- What a tab becomes. -/
  tabReplacement : Text := ['\t']
  /-- What the class of a span starts with in front of the category. -/
  classStart : Text := "hljs-".toList
  deriving DecidableEq, Repr

/-- A run: a category, if there is one, and the text shown in it. -/
abbrev Run := Option Text × Text

/-- The start tag of a span with a class. -/
def spanStart (className : Text) : Text :=
  "<span class=\"".toList ++ className ++ "\">".toList

/-- The end tag of a span. -/
def spanEnd : Text :=
  "</span>".toList

/-- Wraps a line in a span, unless it is empty. -/
def wrapLine (className line : Text) : Text :=
  if line.isEmpty then [] else spanStart className ++ line ++ spanEnd

/-- Text as it is shown in a listing: escaped, with its tabs replaced. -/
def shown (style : Style) (text : Text) : Text :=
  Text.replaceChar '\t' style.tabReplacement (Html.escapeAll text)

/-- The markup of a run. -/
def renderRun (style : Style) : Run → Text
  | (none, text) => shown style text
  | (some category, text) =>
    Text.join ['\n'] ((Text.lines (shown style text)).map (wrapLine (style.classStart ++ category)))

/-- The markup of tokens behind pending texts of a category. What is pending is written as one run
when a token of another category follows, and behind the last token. -/
def formatFrom (style : Style) (current : Option Text) (pending : List Text) : List Token → Text
  | [] => if pending.isEmpty then [] else renderRun style (current, pending.flatten)
  | (kind, text) :: others =>
    -- Nothing is pending in front of the first token alone, as an empty text is kept as well.
    if category kind ≠ current ∧ ¬ pending.isEmpty then
      renderRun style (current, pending.flatten) ++ formatFrom style (category kind) [text] others
    else formatFrom style (category kind) (pending ++ [text]) others

/-- The markup of tokens. -/
def format (style : Style) (tokens : List Token) : Text :=
  formatFrom style none [] tokens

/-- Highlights source code in the first known language. -/
def highlight (style : Style) (lexers : Lexers) (languages : List Text) (code : Text) : Text :=
  format style ((lexers.choose languages).tokens code)

end Listing

end BookMarkup
