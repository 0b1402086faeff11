/-
This file cuts a text into pieces along a pattern. Reading from left to right, each
place where the pattern matches becomes one found piece and reading goes on behind
it; every other character is kept as a piece of its own. Substituting the found pieces
is then a map over the pieces.
-/

import BookMarkup.Text.Basic

namespace BookMarkup

namespace Text

/-! ### Patterns and pieces -/

/-- A pattern says how many characters it takes at the front of a text. Zero means that it
does not match there. -/
abbrev Pattern := Text → Nat

/-- A piece of a text that was scanned for a pattern. -/
inductive Piece where
  /-- One character at which no match starts. -/
  | kept (character : Char)
  /-- The characters that one match takes. -/
  | found (source : Text)
  deriving DecidableEq, Repr

/-- The characters that a piece stands for. -/
def Piece.source : Piece → Text
  | .kept character => [character]
  | .found source => source

/-- The pieces of a text of which the first `skip` characters belong to the match before. -/
def piecesFrom (pattern : Pattern) : Nat → Text → List Piece
  | _, [] => []
  | skip + 1, _ :: rest => piecesFrom pattern skip rest
  | 0, head :: rest =>
    match pattern (head :: rest) with
    | 0 => .kept head :: piecesFrom pattern 0 rest
    | taken + 1 => .found (head :: rest.take taken) :: piecesFrom pattern taken rest

/-- The pieces of a text along a pattern: leftmost matches, without overlap. -/
def pieces (pattern : Pattern) (text : Text) : List Piece :=
  piecesFrom pattern 0 text

/-- Substitutes every match of a pattern and keeps all other characters. -/
def substitute (pattern : Pattern) (replacement : Text → Text) (text : Text) : Text :=
  (pieces pattern text).flatMap fun piece =>
    match piece with
    | .kept character => [character]
    | .found source => replacement source

end Text

end BookMarkup
