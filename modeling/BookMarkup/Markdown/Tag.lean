/-
This file recognises raw HTML in Markdown: start tags, end tags, comments, processing
instructions, declarations and character data, and the addresses in angle brackets
that are links by themselves. A recogniser gives the rest of the text behind what it
recognises.
-/

import BookMarkup.Text.Blank

namespace BookMarkup

namespace Markdown

/-! ### Characters -/

/-- A blank inside a tag. -/
def isTagBlank (c : Char) : Bool :=
  c == ' ' || c == '\t' || c == '\n'

/-- A character that may follow the first letter of a tag name. -/
def isTagNameChar (c : Char) : Bool :=
  c.isAlphanum || c == '-'

/-- A character that an attribute name may start with. -/
def isAttributeStart (c : Char) : Bool :=
  c.isAlpha || c == '_' || c == ':'

/-- A character that an attribute name may hold. -/
def isAttributeChar (c : Char) : Bool :=
  c.isAlphanum || c == '_' || c == ':' || c == '.' || c == '-'

/-- A character of an attribute value without quotes. -/
def isBareValueChar (c : Char) : Bool :=
  !isBlank c && c != '"' && c != '\'' && c != '=' && c != '<' && c != '>' && c != '\x60'

/-! ### Tags -/

/-- The rest behind a quoted value whose opening quote was read. -/
def afterQuoted? (quote : Char) (text : Text) : Option Text :=
  match text.dropWhile (· != quote) with
  | _ :: rest => some rest
  | [] => none

/-- The rest behind an attribute value. -/
def afterValue? (text : Text) : Option Text :=
  match text with
  | '"' :: rest => afterQuoted? '"' rest
  | '\'' :: rest => afterQuoted? '\'' rest
  | c :: _ => if isBareValueChar c then some (text.dropWhile isBareValueChar) else none
  | [] => none

/-- The rest behind an attribute, whose value is optional. -/
def afterAttribute? (text : Text) : Option Text :=
  match text with
  | c :: _ =>
    if isAttributeStart c then
      let rest := text.dropWhile isAttributeChar
      match rest.dropWhile isTagBlank with
      | '=' :: value => afterValue? (value.dropWhile isTagBlank)
      | _ => some rest
    else none
  | [] => none

/-- The rest behind the attributes of a tag, its blanks, and its closing bracket. At most `fuel`
attributes are read. -/
def afterAttributes? : Nat → Text → Option Text
  | 0, _ => none
  | fuel + 1, text =>
    let behind := text.dropWhile isTagBlank
    match behind with
    | '>' :: rest => some rest
    | '/' :: '>' :: rest => some rest
    | _ =>
      if behind.length < text.length then
        (afterAttribute? behind).bind (afterAttributes? fuel)
      else none

/-- The rest behind a start tag whose opening bracket was read. -/
def afterStartTag? (text : Text) : Option Text :=
  if text.head?.any Char.isAlpha then
    afterAttributes? (text.length + 1) (text.dropWhile isTagNameChar)
  else none

/-- The rest behind an end tag whose opening bracket and slash were read. -/
def afterEndTag? (text : Text) : Option Text :=
  if text.head?.any Char.isAlpha then
    match (text.dropWhile isTagNameChar).dropWhile isTagBlank with
    | '>' :: rest => some rest
    | _ => none
  else none

/-- The rest behind the first occurrence of an ending. -/
def behindFirst? (ending text : Text) : Option Text :=
  (Text.breakOn ending text).map Prod.snd

/-- The rest behind a comment whose opening was read. -/
def afterComment? (text : Text) : Option Text :=
  match text with
  | '>' :: rest => some rest
  | '-' :: '>' :: rest => some rest
  | _ => behindFirst? "-->".toList text

/-- The rest behind a piece of raw HTML whose opening bracket was read. -/
def afterRawHtml? (text : Text) : Option Text :=
  match text with
  | '/' :: rest => afterEndTag? rest
  | '!' :: '-' :: '-' :: rest => afterComment? rest
  | '?' :: rest => behindFirst? "?>".toList rest
  | '!' :: rest =>
    match Text.after? "[CDATA[".toList rest with
    | some content => behindFirst? "]]>".toList content
    | none => if rest.head?.any Char.isAlpha then behindFirst? ['>'] rest else none
  | _ => afterStartTag? text

/-! ### Addresses in angle brackets -/

/-- The address in front of a closing bracket if it is absolute: a scheme of two to thirty-two
characters, a colon, and no blanks or brackets. -/
def absoluteAddress? (text : Text) : Option Text :=
  let isSchemeChar := fun c : Char => c.isAlphanum || c == '+' || c == '.' || c == '-'
  let scheme := text.takeWhile isSchemeChar
  let body := text.takeWhile fun c => c != '<' && c != '>' && 0x20 < c.toNat
  if text.head?.any Char.isAlpha && 2 ≤ scheme.length && scheme.length ≤ 32 &&
      (text.drop scheme.length).head? == some ':' && (text.drop body.length).head? == some '>' then
    some body
  else none

/-- Whether a text is a label of a mail domain: letters, digits and inner hyphens. -/
def isDomainLabel (label : Text) : Bool :=
  label.head?.any Char.isAlphanum && label.getLast?.any Char.isAlphanum &&
    label.all (fun c => c.isAlphanum || c == '-') && label.length ≤ 63

/-- The mail address in front of a closing bracket. -/
def mailAddress? (text : Text) : Option Text :=
  let isLocalChar := fun c : Char => c.isAlphanum || ".!#$%&'*+/=?^_\x60\x7b|\x7d~-".toList.contains c
  let name := text.takeWhile isLocalChar
  match text.drop name.length with
  | '@' :: rest =>
    let domain := rest.takeWhile (· != '>')
    if !name.isEmpty && (rest.drop domain.length).head? == some '>' &&
        (Text.parts '.' domain).all isDomainLabel then
      some (name ++ ['@'] ++ domain)
    else none
  | _ => none

end Markdown

end BookMarkup
