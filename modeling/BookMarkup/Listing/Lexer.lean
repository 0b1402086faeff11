/-
This file says what a listing needs of the lexers that cut source code into tokens. The
lexers are those of a library: one for each language that it knows, and one for plain
text, which serves every other language.
-/

import BookMarkup.Listing.Token

namespace BookMarkup

namespace Listing

/-- A lexer. -/
structure Lexer where
  /-- The name that it is shown under. -/
  title : Text
  /-- The tokens of source code. -/
  tokens : Text → List Token

/-- The lexers of a library. -/
structure Lexers where
  /-- The lexer of a language, if the language is known. -/
  lexer? : Text → Option Lexer
  /-- The lexer for plain text. -/
  plain : Lexer

/-- The lexer of the first known language, or the one for plain text. -/
def Lexers.choose (lexers : Lexers) (languages : List Text) : Lexer :=
  (languages.findSome? lexers.lexer?).getD lexers.plain

end Listing

end BookMarkup
