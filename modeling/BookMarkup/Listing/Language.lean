/-
This file cuts source code of three languages into tokens: plain text, which is one token;
differences between files, whose lines have a kind by the way they start; and property
files with their keys, values and escapes. All other languages are unknown.

A lexer drops a byte order mark and unifies line ends. Then it goes through the code in
steps. A step looks at what is left and gives the tokens at its front, which are never
empty; where no rule applies, one character is an error token.
-/

import BookMarkup.Listing.Lexer
import BookMarkup.Text.Blank
import BookMarkup.Text.Digit
import BookMarkup.Text.Word

namespace BookMarkup

namespace Listing

/-! ### Kinds that the lexers give -/

/-- The kind of plain text. -/
def plainKind : TokenKind := ["Text".toList]

/-- The kind of blanks and line ends. -/
def blankKind : TokenKind := ["Text".toList, "Whitespace".toList]

/-- The kind of a character that no rule applies to. -/
def errorKind : TokenKind := ["Error".toList]

/-- A kind of line in a listing of differences. -/
def genericKind (name : Text) : TokenKind := ["Generic".toList, name]

/-- The kind of a comment that ends with its line. -/
def commentKind : TokenKind := ["Comment".toList, "Single".toList]

/-- The kind of a property's key. -/
def keyKind : TokenKind := ["Name".toList, "Attribute".toList]

/-- The kind of the sign between key and value. -/
def operatorKind : TokenKind := ["Operator".toList]

/-- The kind of a property's value. -/
def valueKind : TokenKind := ["Literal".toList, "String".toList]

/-- The kind of an escaped character. -/
def escapeKind : TokenKind := ["Literal".toList, "String".toList, "Escape".toList]

/-! ### Lexing in steps -/

/-- Tokens without the empty ones. -/
def nonEmpty (tokens : List Token) : List Token :=
  tokens.filter fun token => !token.2.isEmpty

/-- Takes steps until the code is used up. Every step uses at least one character; `skip` counts the
characters of the last step that are still to be passed over. -/
def lexFrom {State : Type} (step : State → Text → List Token × State) :
    Nat → State → Text → List Token
  | _, _, [] => []
  | skip + 1, state, _ :: rest => lexFrom step skip state rest
  | 0, state, head :: rest =>
    let (tokens, next) := step state (head :: rest)
    tokens ++ lexFrom step ((spelling tokens).length - 1) next rest

/-! ### Differences -/

/-- A text behind a comma and digits, if it starts with them. -/
def behindRange (text : Text) : Text :=
  match text with
  | ',' :: rest => if rest.head?.any isDecimalDigit then rest.dropWhile isDecimalDigit else text
  | _ => text

/-- Whether a line is a change command: a digit, perhaps a range, a letter for adding, changing
or deleting, digits, and perhaps a range. -/
def isChangeCommand (line : Text) : Bool :=
  match line with
  | first :: rest =>
    match behindRange rest with
    | letter :: numbers =>
      isDecimalDigit first && (letter == 'a' || letter == 'c' || letter == 'd') &&
        numbers.head?.any isDecimalDigit &&
        (behindRange (numbers.dropWhile isDecimalDigit)).isEmpty
    | [] => false
  | [] => false

/-- The tokens of a line of differences without its end. -/
def differenceLine (line : Text) : List Token :=
  let starts := fun front : Text => front.isPrefixOf line
  match line with
  | ' ' :: rest => [(blankKind, [' ']), (plainKind, rest)]
  | _ =>
    if starts ['!'] || line = "---".toList then [(genericKind "Strong".toList, line)]
    else if starts "< ".toList || starts ['-'] then [(genericKind "Deleted".toList, line)]
    else if starts "> ".toList || starts ['+'] then [(genericKind "Inserted".toList, line)]
    else if starts ['@'] || isChangeCommand line then [(genericKind "Subheading".toList, line)]
    else if starts "Index".toList || starts "index".toList || starts "diff".toList ||
        starts ['='] then
      [(genericKind "Heading".toList, line)]
    else [(plainKind, line)]

/-- A step through differences. A line counts only with its end; the characters of a last line
without one are errors. -/
def differenceStep (_ : Unit) (code : Text) : List Token × Unit :=
  let line := code.takeWhile (· != '\n')
  if (code.drop line.length).isEmpty then ([(errorKind, code.take 1)], ())
  else (nonEmpty (differenceLine line ++ [(blankKind, ['\n'])]), ())

/-! ### Properties -/

/-- Where a lexer for properties stands. -/
inductive PropertyPlace where
  /-- At the start of a line. -/
  | lineStart
  /-- Inside a line, between properties. -/
  | between
  /-- In a key. -/
  | key
  /-- In a value. -/
  | value
  deriving DecidableEq, Repr

/-- A blank inside a line. -/
def isInnerBlank (c : Char) : Bool :=
  isBlank c && c != '\n'

/-- A character that a key may hold as it is. -/
def isKeyChar (c : Char) : Bool :=
  !isBlank c && c != '\\' && c != ':' && c != '='

/-- A character that a value may hold as it is. -/
def isValueChar (c : Char) : Bool :=
  c != '\\' && c != '\n'

/-- The tokens of an escape behind its backslash: an escaped line end takes the blanks behind it
along. A backslash at the end of the code escapes nothing. -/
def escapeTokens (behind : Text) : List Token :=
  match behind with
  | '\n' :: rest => nonEmpty [(escapeKind, ['\\', '\n']), (blankKind, rest.takeWhile isInnerBlank)]
  | c :: _ => [(escapeKind, ['\\', c])]
  | [] => [(errorKind, ['\\'])]

/-- A step inside a key. A sign with the blanks around it, or blanks alone, end the key. -/
def keyStep (code : Text) : List Token × PropertyPlace :=
  let blanks := code.takeWhile isInnerBlank
  let behind := code.drop blanks.length
  match code with
  | '\n' :: _ => ([(blankKind, ['\n'])], .lineStart)
  | '\\' :: rest => (escapeTokens rest, .key)
  | _ =>
    match behind with
    | sign :: rest =>
      if sign = ':' || sign = '=' then
        (nonEmpty [(blankKind, blanks), (operatorKind, [sign]),
          (blankKind, rest.takeWhile isInnerBlank)], .value)
      else if blanks.isEmpty then ([(keyKind, code.takeWhile isKeyChar)], .key)
      else ([(blankKind, blanks)], .value)
    | [] => ([(blankKind, blanks)], .value)

/-- A step inside a value, which ends with the line. -/
def valueStep (code : Text) : List Token × PropertyPlace :=
  match code with
  | '\n' :: _ => ([(blankKind, ['\n'])], .lineStart)
  | '\\' :: rest => (escapeTokens rest, .value)
  | _ => ([(valueKind, code.takeWhile isValueChar)], .value)

/-- A step through properties. Blanks count as an indent only at the start of a line. -/
def propertyStep (place : PropertyPlace) (code : Text) : List Token × PropertyPlace :=
  match place with
  | .key => keyStep code
  | .value => valueStep code
  | .lineStart | .between =>
    let indent := code.takeWhile isInnerBlank
    match code with
    | '\n' :: _ => ([(blankKind, ['\n'])], .lineStart)
    | _ =>
      if ['!'].isPrefixOf code || ['#'].isPrefixOf code || ['/', '/'].isPrefixOf code then
        ([(commentKind, code.takeWhile (· != '\n'))], .between)
      else if place = .lineStart && !indent.isEmpty then ([(blankKind, indent)], .between)
      else keyStep code

/-! ### The three lexers -/

/-- Source code as a lexer reads it: without a byte order mark and with unified line ends. -/
def prepared (code : Text) : Text :=
  Text.unifyLineEnds ((Text.after? ['\uFEFF'] code).getD code)

/-- The lexer for text without structure. -/
def Lexer.plainText : Lexer where
  title := "Text only".toList
  tokens code := [(plainKind, prepared code)]

/-- The lexer for differences between files. -/
def Lexer.differences : Lexer where
  title := "Diff".toList
  tokens code := lexFrom differenceStep 0 () (prepared code)

/-- The lexer for property files. -/
def Lexer.properties : Lexer where
  title := "Properties".toList
  tokens code := lexFrom propertyStep 0 .lineStart (prepared code)

/-- The lexer of a language, whose name may be written in either case. -/
def lexerOf? (language : Text) : Option Lexer :=
  let name := Text.lower language
  if name = "text".toList then some .plainText
  else if name = "diff".toList || name = "udiff".toList then some .differences
  else if name = "properties".toList || name = "jproperties".toList then some .properties
  else none

/-- The three lexers. -/
def Lexers.three : Lexers where
  lexer? := lexerOf?
  plain := .plainText

end Listing

end BookMarkup
