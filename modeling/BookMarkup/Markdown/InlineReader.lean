/-
This file reads the inline constructs of a block. The text is read from left to right.
An opening bracket starts a new level; a closing bracket ends it as a link or an image
if a destination follows, and otherwise both brackets are text. When a level ends, the
emphasis in it is nested.
-/

import BookMarkup.Markdown.Delimiter
import BookMarkup.Markdown.Tag
import BookMarkup.Markdown.Target

namespace BookMarkup

namespace Markdown

/-! ### Levels -/

/-- The bracket that starts a level. -/
structure Bracket where
  /-- Whether an exclamation mark stands in front of it. -/
  isImage : Bool
  /-- Whether it can still become a link or an image. -/
  active : Bool
  /-- The source behind it. -/
  behind : Text
  deriving DecidableEq, Repr

/-- A level of the text: the bracket that starts it and its pieces from the last to the first. -/
structure Level where
  /-- The bracket that starts the level. -/
  bracket : Bracket
  /-- The pieces of the level, the last one first. -/
  pieces : List Unnested
  deriving Repr

/-- What was read so far: the pieces outside all brackets, the last one first, and the levels,
the innermost one first. -/
structure Progress where
  /-- The pieces outside all brackets. -/
  outer : List Unnested
  /-- The levels that are open. -/
  levels : List Level
  deriving Repr

/-- Adds pieces, given from the last to the first, to the innermost level. -/
def Progress.add (progress : Progress) (pieces : List Unnested) : Progress :=
  match progress.levels with
  | [] => { progress with outer := pieces ++ progress.outer }
  | level :: others =>
    { progress with levels := { level with pieces := pieces ++ level.pieces } :: others }

/-- Adds text as pieces of one character each. -/
def Progress.addText (progress : Progress) (text : Text) : Progress :=
  progress.add (text.reverse.map fun c => .done (.text [c]))

/-- The pieces of the innermost level, the last one first. -/
def Progress.current (progress : Progress) : List Unnested :=
  match progress.levels with
  | [] => progress.outer
  | level :: _ => level.pieces

/-- Replaces the pieces of the innermost level. -/
def Progress.setCurrent (progress : Progress) (pieces : List Unnested) : Progress :=
  match progress.levels with
  | [] => { progress with outer := pieces }
  | level :: others => { progress with levels := { level with pieces } :: others }

/-- The text of a bracket. -/
def bracketText (bracket : Bracket) : Text :=
  if bracket.isImage then ['!', '['] else ['[']

/-- Ends the innermost level as text. -/
def Progress.dissolve (progress : Progress) : Progress :=
  match progress.levels with
  | [] => progress
  | level :: others =>
    (({ progress with levels := others }).addText (bracketText level.bracket)).add level.pieces

/-- Ends all levels as text. -/
def dissolveAll : Nat → Progress → Progress
  | 0, progress => progress
  | count + 1, progress => dissolveAll count progress.dissolve

/-- Makes the brackets of links inactive: a link holds no other link. -/
def deactivateLinks (levels : List Level) : List Level :=
  levels.map fun level =>
    if level.bracket.isImage then level
    else { level with bracket := { level.bracket with active := false } }

/-! ### Closing brackets -/

/-- The destination that follows a closing bracket, and how many characters it takes: one in
parentheses, or a reference whose label follows or is the text between the brackets. -/
def destinationBehind? (definitions : List Definition) (between behind : Text) :
    Option (Destination × Nat) :=
  let ownLabel : Option Destination :=
    (label? (between ++ [']'])).bind fun (label, _) => definitionOf? definitions label
  let direct : Option (Destination × Nat) :=
    match behind with
    | '(' :: rest =>
      (inlineDestination? rest).map fun (destination, remaining) =>
        (destination, behind.length - remaining.length)
    | _ => none
  let reference : Option (Destination × Nat) :=
    match behind with
    | '[' :: ']' :: _ => ownLabel.map fun destination => (destination, 2)
    | '[' :: rest =>
      match label? rest with
      | some (label, remaining) =>
        (definitionOf? definitions label).map fun destination =>
          (destination, behind.length - remaining.length)
      | none => ownLabel.map fun destination => (destination, 0)
    | _ => ownLabel.map fun destination => (destination, 0)
  direct.or reference

/-- Reads a closing bracket that `behind` follows. -/
def closeBracket (definitions : List Definition) (progress : Progress) (behind : Text) :
    Progress × Nat :=
  match progress.levels with
  | [] => (progress.addText [']'], 1)
  | level :: others =>
    let between := level.bracket.behind.take (level.bracket.behind.length - behind.length - 1)
    match (if level.bracket.active then destinationBehind? definitions between behind else none) with
    | none => (progress.dissolve.addText [']'], 1)
    | some (destination, taken) =>
      let children := nest level.pieces.reverse
      let outside : Progress := { progress with levels := others }
      if level.bracket.isImage then
        (outside.add [.done (.image children destination.target destination.title)], taken + 1)
      else
        (({ outside with levels := deactivateLinks others }).add
          [.done (.link children destination.target destination.title)], taken + 1)

/-! ### Other constructs -/

/-- The rest behind a run of exactly `width` back ticks, and the source before it. -/
def closingTicks? (width : Nat) : Nat → Text → Option (Text × Text)
  | 0, _ => none
  | _ + 1, [] => none
  | fuel + 1, head :: rest =>
    if head = '\x60' then
      let ticks := (head :: rest).takeWhile (· == '\x60')
      let behind := (head :: rest).drop ticks.length
      if ticks.length = width then some ([], behind)
      else (closingTicks? width fuel behind).map fun (code, remaining) => (ticks ++ code, remaining)
    else (closingTicks? width fuel rest).map fun (code, remaining) => (head :: code, remaining)

/-- The code between back ticks: line ends are spaces, and one space is dropped at both ends if
both have one and there is something else. -/
def codeOf (source : Text) : Text :=
  let code := source.map fun c => if c = '\n' then ' ' else c
  if code.head? = some ' ' && code.getLast? = some ' ' && !code.all (· == ' ') then
    (code.drop 1).dropLast
  else code

/-- Reads an opening angle bracket that `behind` follows: an address, a raw tag or text. -/
def readAngle (progress : Progress) (behind : Text) : Progress × Nat :=
  let linked := fun (address target : Text) =>
    (progress.add [.done (.link [.text address] (passedOn target) none)], address.length + 2)
  match absoluteAddress? behind, mailAddress? behind, afterRawHtml? behind with
  | some address, _, _ => linked address address
  | none, some address, _ => linked address ("mailto:".toList ++ address)
  | none, none, some remaining =>
    let taken := behind.length - remaining.length
    (progress.add [.done (.html ('<' :: behind.take taken))], taken + 1)
  | none, none, none => (progress.addText ['<'], 1)

/-- Whether a piece is a space. -/
def isSpacePiece : Unnested → Bool
  | .done (.text [' ']) => true
  | _ => false

/-- Reads the end of a line. Two or more spaces in front of it ask for a line break; all spaces
in front of it are dropped. -/
def readLineEnd (progress : Progress) : Progress :=
  let spaces := (progress.current.takeWhile isSpacePiece).length
  let kept := progress.setCurrent (progress.current.drop spaces)
  kept.add [.done (if 2 ≤ spaces then .hardBreak else .softBreak)]

/-! ### Reading -/

/-- Reads one construct at the front of a source: the progress behind it and how many characters
it takes. The character in front of the source is given. -/
def readOne (definitions : List Definition) (before : Option Char) (progress : Progress)
    (head : Char) (rest : Text) : Progress × Nat :=
  match head with
  | '\\' =>
    match rest with
    | '\n' :: _ => (progress.add [.done .hardBreak], 2)
    | c :: _ => if isAsciiPunctuation c then (progress.addText [c], 2) else (progress.addText ['\\'], 1)
    | [] => (progress.addText ['\\'], 1)
  | '\x60' =>
    let width := (rest.takeWhile (· == '\x60')).length + 1
    let behind := rest.drop (width - 1)
    match closingTicks? width (behind.length + 1) behind with
    | some (source, remaining) =>
      (progress.add [.done (.code (codeOf source))], rest.length + 1 - remaining.length)
    | none => (progress.addText (List.replicate width '\x60'), width)
  | '<' => readAngle progress rest
  | '!' =>
    match rest with
    | '[' :: behind =>
      ({ progress with levels := ⟨⟨true, true, behind⟩, []⟩ :: progress.levels }, 2)
    | _ => (progress.addText ['!'], 1)
  | '[' => ({ progress with levels := ⟨⟨false, true, rest⟩, []⟩ :: progress.levels }, 1)
  | ']' => closeBracket definitions progress rest
  | '\n' => (readLineEnd progress, 1)
  | _ =>
    if head = '*' || head = '_' || head = '~' then
      let width := (rest.takeWhile (· == head)).length + 1
      (progress.add [.run (runBetween before head width (rest.drop (width - 1)).head?)], width)
    else (progress.addText [head], 1)

/-- Reads a source to its end. Every construct takes at least one character. -/
def readFrom (definitions : List Definition) (before : Option Char) (progress : Progress) :
    Text → Progress
  | [] => progress
  | head :: rest =>
    let (next, taken) := readOne definitions before progress head rest
    readFrom definitions ((head :: rest).take taken).getLast? next (rest.drop (taken - 1))
termination_by source => source.length
decreasing_by simp only [List.length_cons, List.length_drop]; omega

/-- The inline constructs of a source. -/
def Inline.ofSource (definitions : List Definition) (source : Text) : List Inline :=
  let progress := readFrom definitions none ⟨[], []⟩ source
  nest (dissolveAll progress.levels.length progress).outer.reverse

end Markdown

end BookMarkup
