/-
This file turns the bare URLs in a fragment of text or HTML into anchors. Complete
anchor elements and single tags are passed over, so a URL that is linked already or
stands in an attribute is left alone. Punctuation that ends the sentence around a URL
is not part of it.
-/

import BookMarkup.Html.Escape
import BookMarkup.Text.Blank
import BookMarkup.Text.Scan
import BookMarkup.Text.Widow

namespace BookMarkup

namespace Html

/-! ### Markup that is passed over -/

/-- The rest of a text behind the first end tag of an anchor. -/
def afterAnchorEnd? : Text → Option Text
  | '<' :: '/' :: letter :: '>' :: rest =>
    if isLetterOf 'a' letter then some rest else afterAnchorEnd? ('/' :: letter :: '>' :: rest)
  | _ :: rest => afterAnchorEnd? rest
  | [] => none

/-- The pattern of a complete anchor element: an `a` tag and everything up to the first end
tag of an anchor. -/
def anchorPattern : Text.Pattern
  | '<' :: letter :: rest =>
    if isLetterOf 'a' letter && !(rest.head?.any isWord) then
      match rest.dropWhile (· != '>') with
      | '>' :: content =>
        match afterAnchorEnd? content with
        | some behind => rest.length + 2 - behind.length
        | none => 0
      | _ => 0
    else 0
  | _ => 0

/-- The pattern of anything between angle brackets, also of nothing. -/
def bracketPattern : Text.Pattern
  | '<' :: rest =>
    let inside := rest.takeWhile (· != '>')
    if (rest.drop inside.length).isEmpty then 0 else inside.length + 2
  | _ => 0

/-! ### URLs -/

/-- The rest of a text behind some small letters in any case. -/
def afterLetters? : Text → Text → Option Text
  | [], text => some text
  | letter :: letters, head :: rest =>
    if isLetterOf letter head then afterLetters? letters rest else none
  | _ :: _, [] => none

/-- The rest of a text behind `http`, `https`, `ftp` or `ftps` in any case, a colon and two
slashes. -/
def afterWebScheme? (text : Text) : Option Text := do
  let rest ← (afterLetters? "http".toList text).or (afterLetters? "ftp".toList text)
  let rest := match rest with
    | head :: behind => if isLetterOf 's' head then behind else rest
    | [] => rest
  Text.after? "://".toList rest

/-- A character that a bare URL may hold. -/
def isUrlChar (c : Char) : Bool :=
  !isBlank c && c != '<' && c != '>' && c != '"'

/-- The pattern of a bare URL: a web scheme and at least one further character. -/
def urlPattern : Text.Pattern := fun text =>
  match afterWebScheme? text with
  | none => 0
  | some rest =>
    let body := rest.takeWhile isUrlChar
    if body.isEmpty then 0 else text.length - rest.length + body.length

/-- Punctuation that ends a sentence around a URL. -/
def isSentencePunctuation (c : Char) : Bool :=
  c == '.' || c == ',' || c == ';' || c == ':' || c == '!' || c == '?'

/-- Drops the closing parentheses at the end of a URL that have no opening one in it. -/
def dropUnbalanced (url : Text) : Text :=
  let excess := url.count ')' - url.count '('
  let closing := (url.reverse.takeWhile (· == ')')).length
  url.take (url.length - min excess closing)

/-- The part of a bare URL that is linked. It ends in front of a no-break space reference.
Then punctuation and unbalanced parentheses at the end go; a URL with a query loses only
commas and semicolons. -/
def trimUrl (url : Text) : Text :=
  let url := match Text.breakOn noBreakSpace url with
    | some (before, _) => before
    | none => url
  let isQuery := url.contains '?'
  let trimmed := Text.dropEndWhile
    (if isQuery then fun c => c == ',' || c == ';' else isSentencePunctuation) url
  if trimmed.getLast? = some ')' then
    let balanced := dropUnbalanced trimmed
    if isQuery then balanced else Text.dropEndWhile isSentencePunctuation balanced
  else trimmed

/-! ### Anchors -/

/-- The pattern of what autolinking looks at: an anchor element, a tag or a bare URL. -/
def autolinkPattern : Text.Pattern := fun text =>
  match anchorPattern text with
  | 0 =>
    match bracketPattern text with
    | 0 => urlPattern text
    | taken => taken
  | taken => taken

/-- An anchor that shows its own target. -/
def anchorTo (url : Text) : Text :=
  "<a href=\"".toList ++ escapeAttribute url ++ "\">".toList ++ url ++ "</a>".toList

/-- What a found piece becomes: markup stays, a URL becomes an anchor followed by what was
trimmed off it. -/
def linkFound (source : Text) : Text :=
  if source.head? = some '<' then source
  else
    let url := trimUrl source
    anchorTo url ++ source.drop url.length

/-- Turns the bare URLs of a fragment into anchors. -/
def autolink (text : Text) : Text :=
  Text.substitute autolinkPattern linkFound text

end Html

end BookMarkup
