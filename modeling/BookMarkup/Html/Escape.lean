/-
This file escapes the characters that HTML reserves. There are three strengths: all
reserved characters, as for source code; all but the ampersands of character
references that are already there, as for attribute values; and the same without the
quotes, as for the content of an element.
-/

import BookMarkup.Text.Word

namespace BookMarkup

namespace Html

/-! ### Reserved characters -/

/-- What a character is written as where HTML reserves it; other characters stand for
themselves. -/
def escapeChar (c : Char) : Text :=
  if c = '&' then "&amp;".toList
  else if c = '<' then "&lt;".toList
  else if c = '>' then "&gt;".toList
  else if c = '"' then "&quot;".toList
  else if c = '\'' then "&#39;".toList
  else [c]

/-- Escapes every reserved character. -/
def escapeAll (text : Text) : Text :=
  text.flatMap escapeChar

/-! ### Keeping the references that are already there -/

/-- Whether a text completes a character reference whose ampersand stands in front of it: an
optional number sign, word characters and a semicolon. -/
def completesReference (text : Text) : Bool :=
  let body := match text with
    | '#' :: rest => rest
    | _ => text
  match body.dropWhile isWord with
  | ';' :: _ => body.head?.any isWord
  | _ => false

/-- Escapes the ampersands that start no character reference and the other characters that
`reserved` names. -/
def escapeKeeping (reserved : Char → Bool) : Text → Text
  | [] => []
  | head :: rest =>
    let written :=
      if head = '&' then (if completesReference rest then ['&'] else escapeChar '&')
      else if reserved head then escapeChar head
      else [head]
    written ++ escapeKeeping reserved rest

/-- Whether a character other than the ampersand is reserved in an attribute value. -/
def isReservedInAttribute (c : Char) : Bool :=
  c == '<' || c == '>' || c == '"' || c == '\''

/-- Whether a character other than the ampersand is reserved in element content. -/
def isReservedInContent (c : Char) : Bool :=
  c == '<' || c == '>'

/-- Escapes an attribute value. Character references that are already there are kept, so
partly rendered markup can be escaped again. -/
def escapeAttribute (text : Text) : Text :=
  escapeKeeping isReservedInAttribute text

/-- Escapes element content. Quotes are safe there, and character references that the author
typed are kept. -/
def escapeContent (text : Text) : Text :=
  escapeKeeping isReservedInContent text

end Html

end BookMarkup
