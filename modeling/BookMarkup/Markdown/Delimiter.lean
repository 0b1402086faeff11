/-
This file nests emphasis. Runs of asterisks, underscores and tildes can open or close
emphasis, depending on the characters around them. Reading from left to right, a run
that can close is matched with the nearest run of the same character that can open;
what stands between them becomes the content, and runs in it that found no partner are
text.
-/

import BookMarkup.Markdown.Inline
import BookMarkup.Text.Blank
import BookMarkup.Text.Word

namespace BookMarkup

namespace Markdown

/-! ### Runs -/

/-- A run of delimiters. -/
structure Run where
  /-- The character that is repeated. -/
  delimiter : Char
  /-- How many characters are left to use. -/
  count : Nat
  /-- How many characters the run had at first. -/
  width : Nat
  /-- Whether the run can open emphasis. -/
  opens : Bool
  /-- Whether the run can close emphasis. -/
  closes : Bool
  deriving DecidableEq, Repr

/-- A piece of a text whose emphasis is not nested yet. -/
inductive Unnested where
  /-- A finished construct. -/
  | done (inline : Inline)
  /-- A run of delimiters. -/
  | run (run : Run)
  deriving Repr

/-- Whether a neighbour of a run is a blank; the ends of the text count as blanks. -/
def isBlankNeighbour : Option Char → Bool
  | none => true
  | some c => isBlank c

/-- Ranges of characters that are neither word characters nor punctuation nor symbols: controls,
signs that combine with the letter before them, and signs that direct the layout. -/
def joiningRanges : List (Nat × Nat) :=
  [(0x00, 0x1F), (0x7F, 0x9F), (0xAD, 0xAD), (0x300, 0x36F), (0x483, 0x489), (0x591, 0x5BD),
   (0x5BF, 0x5BF), (0x5C1, 0x5C2), (0x5C4, 0x5C5), (0x5C7, 0x5C7), (0x610, 0x61A), (0x61C, 0x61C),
   (0x64B, 0x65F), (0x670, 0x670), (0x6D6, 0x6DD), (0x6DF, 0x6E4), (0x900, 0x903), (0x93A, 0x93C),
   (0x93E, 0x94F), (0x1AB0, 0x1AFF), (0x1DC0, 0x1DFF), (0x200B, 0x200F), (0x202A, 0x202E),
   (0x2060, 0x206F), (0x20D0, 0x20F0), (0x302A, 0x302F), (0x3099, 0x309A), (0xFE00, 0xFE0F),
   (0xFE20, 0xFE2F), (0xFEFF, 0xFEFF), (0xE0000, 0xE01EF)]

/-- Whether a character joins the one before it, or does not show at all. -/
def isJoining (c : Char) : Bool :=
  joiningRanges.any fun (first, last) => first ≤ c.toNat && c.toNat ≤ last

/-- Whether a neighbour of a run is punctuation or a symbol. -/
def isMarkNeighbour : Option Char → Bool
  | none => false
  | some c => (!isWord c || c == '_') && !isBlank c && !isJoining c

/-- The run of a repeated character between two neighbours. A run leans to a side where no blank
stands and, unless the other side has a blank or a mark, no mark either. Underscores inside a
word do not count, and tildes count in pairs only. -/
def runBetween (before : Option Char) (delimiter : Char) (width : Nat) (behind : Option Char) : Run :=
  let leansRight := !isBlankNeighbour behind &&
    (!isMarkNeighbour behind || isBlankNeighbour before || isMarkNeighbour before)
  let leansLeft := !isBlankNeighbour before &&
    (!isMarkNeighbour before || isBlankNeighbour behind || isMarkNeighbour behind)
  if delimiter = '_' then
    ⟨delimiter, width, width, leansRight && (!leansLeft || isMarkNeighbour before),
      leansLeft && (!leansRight || isMarkNeighbour behind)⟩
  else if delimiter = '~' then
    ⟨delimiter, width, width, width == 2 && !isBlankNeighbour behind,
      width == 2 && !isBlankNeighbour before⟩
  else ⟨delimiter, width, width, leansRight, leansLeft⟩

/-- Whether two runs may be partners. Where one of them can both open and close, their widths must
not add up to a multiple of three unless both are multiples of three. -/
def areMates (opener closer : Run) : Bool :=
  opener.delimiter == closer.delimiter && opener.opens && 0 < opener.count &&
    !((opener.closes || closer.opens) && (opener.width + closer.width) % 3 == 0 &&
      !(opener.width % 3 == 0 && closer.width % 3 == 0))

/-! ### Nesting -/

/-- The constructs of finished pieces; a run without a partner is text. -/
def inlinesOf (pieces : List Unnested) : List Inline :=
  mergeText (pieces.map fun piece =>
    match piece with
    | .done inline => inline
    | .run run => .text (List.replicate run.count run.delimiter))

/-- The pieces behind the nearest partner of a closing run, the partner, and the pieces before it.
The pieces are given from the last to the first. -/
def findOpener (closer : Run) : List Unnested → Option (List Unnested × Run × List Unnested)
  | [] => none
  | .run opener :: earlier =>
    if areMates opener closer then some ([], opener, earlier)
    else (findOpener closer earlier).map fun (between, found, before) =>
      (.run opener :: between, found, before)
  | .done inline :: earlier =>
    (findOpener closer earlier).map fun (between, found, before) =>
      (.done inline :: between, found, before)

/-- What a pair of partners makes of its content, and how many characters each of them spends. -/
def emphasise (opener closer : Run) (content : List Inline) : Inline × Nat :=
  if opener.delimiter = '~' then (.strikethrough content, 2)
  else if 2 ≤ opener.count && 2 ≤ closer.count then (.strong content, 2)
  else (.emphasis content, 1)

/-- A run from which some characters were spent, unless none is left. -/
def spend (run : Run) (spent : Nat) : List Unnested :=
  if run.count ≤ spent then [] else [.run { run with count := run.count - spent }]

/-- Closes emphasis with a run as often as it has characters and partners. The pieces before the
run are given from the last to the first. -/
def closeWith : Nat → List Unnested → Run → List Unnested
  | 0, before, closer => .run closer :: before
  | fuel + 1, before, closer =>
    if !closer.closes then .run closer :: before
    else
      match findOpener closer before with
      | none => .run closer :: before
      | some (between, opener, earlier) =>
        let (inline, spent) := emphasise opener closer (inlinesOf between.reverse)
        let nested := .done inline :: (spend opener spent ++ earlier)
        if closer.count ≤ spent then nested
        else closeWith fuel nested { closer with count := closer.count - spent }

/-- Nests emphasis from left to right; the pieces read so far are given from the last to the
first. -/
def nestFrom (before : List Unnested) : List Unnested → List Unnested
  | [] => before
  | .done inline :: others => nestFrom (.done inline :: before) others
  | .run run :: others => nestFrom (closeWith run.count before run) others

/-- Nests the emphasis of some pieces. -/
def nest (pieces : List Unnested) : List Inline :=
  inlinesOf (nestFrom [] pieces).reverse

end Markdown

end BookMarkup
