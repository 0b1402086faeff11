/-
This file reads what follows the text of a link: a target and a title in parentheses,
or the label of a reference. It also reads the definitions of references and keeps them
by their labels, which are compared without regard to case and to the width of blanks.
-/

import BookMarkup.Html.CharRef
import BookMarkup.Text.Blank
import BookMarkup.Text.Fold

namespace BookMarkup

namespace Markdown

/-! ### Escapes -/

/-- The punctuation of ASCII, which a backslash makes literal. -/
def isAsciiPunctuation (c : Char) : Bool :=
  let code := c.toNat
  (0x21 ≤ code && code ≤ 0x2F) || (0x3A ≤ code && code ≤ 0x40) || (0x5B ≤ code && code ≤ 0x60) ||
    (0x7B ≤ code && code ≤ 0x7E)

/-- A text with its backslash escapes resolved. -/
def unescape : Text → Text
  | '\\' :: c :: rest =>
    if isAsciiPunctuation c then c :: unescape rest else '\\' :: unescape (c :: rest)
  | head :: rest => head :: unescape rest
  | [] => []

/-- The characters that a target keeps besides the unreserved ones. -/
def addressChars : Text :=
  ":/?#@!$&()*+,;=%".toList

/-- A target as it is passed on: character references are decoded, and what may not stand in a
URL is percent-encoded. -/
def passedOn (target : Text) : Text :=
  Percent.encode addressChars (CharRef.decodeTerminated target)

/-! ### Targets and titles -/

/-- Blanks and line ends between the parts of a link. -/
def isGap (c : Char) : Bool :=
  c == ' ' || c == '\t' || c == '\n'

/-- Reads up to an unescaped closing character. Characters that `stops` names end the attempt. -/
def untilUnescaped? (stops : Char → Bool) (closing : Char) : Text → Option (Text × Text)
  | '\\' :: c :: rest => (untilUnescaped? stops closing rest).map fun (read, behind) =>
      ('\\' :: c :: read, behind)
  | head :: rest =>
    if head = closing then some ([], rest)
    else if stops head then none
    else (untilUnescaped? stops closing rest).map fun (read, behind) => (head :: read, behind)
  | [] => none

/-- Reads a target without brackets: no blanks and no controls, and parentheses in balance;
`depth` of them are open. -/
def bareTarget : Nat → Text → Text × Text
  | depth, '\\' :: c :: rest =>
    if isAsciiPunctuation c then
      let (read, behind) := bareTarget depth rest
      ('\\' :: c :: read, behind)
    else
      let (read, behind) := bareTarget depth (c :: rest)
      ('\\' :: read, behind)
  | depth, head :: rest =>
    if head.toNat ≤ 0x20 || head.toNat == 0x7F then ([], head :: rest)
    else if head = '(' then
      let (read, behind) := bareTarget (depth + 1) rest
      (head :: read, behind)
    else if head = ')' then
      match depth with
      | 0 => ([], head :: rest)
      | outer + 1 =>
        let (read, behind) := bareTarget outer rest
        (head :: read, behind)
    else
      let (read, behind) := bareTarget depth rest
      (head :: read, behind)
  | _, [] => ([], [])

/-- Whether the unescaped parentheses of a target are in balance. -/
def isBalanced : Nat → Text → Bool
  | depth, '\\' :: _ :: rest => isBalanced depth rest
  | depth, '(' :: rest => isBalanced (depth + 1) rest
  | depth, ')' :: rest =>
    match depth with
    | 0 => false
    | outer + 1 => isBalanced outer rest
  | depth, _ :: rest => isBalanced depth rest
  | depth, [] => depth == 0

/-- A target as it is written, and the rest behind it. -/
def target? (text : Text) : Option (Text × Text) :=
  match text with
  | '<' :: rest => untilUnescaped? (fun c => c == '\n' || c == '<') '>' rest
  | _ =>
    let (read, behind) := bareTarget 0 text
    if isBalanced 0 read then some (read, behind) else none

/-- A title as it is written, and the rest behind it. -/
def title? (text : Text) : Option (Text × Text) :=
  match text with
  | '"' :: rest => untilUnescaped? (fun _ => false) '"' rest
  | '\'' :: rest => untilUnescaped? (fun _ => false) '\'' rest
  | '(' :: rest => untilUnescaped? (· == '(') ')' rest
  | _ => none

/-- What a link leads to: the target as it is passed on and the title, if there is one. -/
structure Destination where
  /-- The target as it is passed on. -/
  target : Text
  /-- The title, with its backslash escapes resolved. -/
  title : Option Text
  deriving DecidableEq, Repr

/-- The destination that a written target and a written title give. -/
def Destination.ofWritten (target : Text) (title : Option Text) : Destination :=
  ⟨passedOn (unescape target), title.map unescape⟩

/-- The destination in parentheses behind the text of a link, and the rest behind it. The opening
parenthesis was read. -/
def inlineDestination? (text : Text) : Option (Destination × Text) :=
  match text.dropWhile isGap with
  | ')' :: rest => some (.ofWritten [] none, rest)
  | start =>
    match target? start with
    | none => none
    | some (target, behind) =>
      match behind.dropWhile isGap with
      | ')' :: rest => some (.ofWritten target none, rest)
      | next =>
        if next.length < behind.length then
          match title? next with
          | none => none
          | some (title, behind) =>
            match behind.dropWhile isGap with
            | ')' :: rest => some (.ofWritten target (some title), rest)
            | _ => none
        else none

/-! ### References -/

/-- A definition of a reference. -/
structure Definition where
  /-- The label in the form in which labels are compared. -/
  label : Text
  /-- What links with that label lead to. -/
  destination : Destination
  deriving DecidableEq, Repr

/-- The words of a text, which blanks separate. -/
def words (text : Text) : List Text :=
  (Text.parts ' ' (text.map fun c => if isBlank c then ' ' else c)).filter fun word => !word.isEmpty

/-- The form in which labels are compared. -/
def labelKey (label : Text) : Text :=
  Text.fold (Text.join [' '] (words label))

/-- The first definition of a label. -/
def definitionOf? (definitions : List Definition) (label : Text) : Option Destination :=
  let key := labelKey label
  if key.isEmpty then none
  else (definitions.find? fun definition => definition.label == key).map Definition.destination

/-- A label in brackets whose opening bracket was read, and the rest behind it. A label holds no
unescaped brackets and something besides blanks. -/
def label? (text : Text) : Option (Text × Text) :=
  match untilUnescaped? (· == '[') ']' text with
  | some (label, behind) => if label.all isBlank || 999 < label.length then none else some (label, behind)
  | none => none

/-- The rest behind blanks up to the end of a line. -/
def lineEnd? (text : Text) : Option Text :=
  match text.dropWhile (fun c => c == ' ' || c == '\t') with
  | [] => some []
  | '\n' :: rest => some rest
  | _ => none

/-- Whether a text holds a line without anything but blanks between two others. -/
def hasBlankLine (text : Text) : Bool :=
  ((Text.lines text).drop 1).dropLast.any fun line => line.all isBlank

/-- The definition at the front of a paragraph, and the rest behind it. A title that something
follows on its line is none, and then the target has to end its line. With `footnotes`, a label
that starts with a caret defines no reference. -/
def definition? (footnotes : Bool) (text : Text) : Option (Definition × Text) := do
  let opened ← Text.after? ['['] text
  let (label, behind) ← label? opened
  if footnotes && label.head? == some '^' then none
  else
    let colon ← Text.after? [':'] behind
    let start := colon.dropWhile isGap
    if start.isEmpty then none
    else
      let (target, rest) ← target? start
      if target.isEmpty && start.head? != some '<' then none
      else
        let next := rest.dropWhile isGap
        let titled : Option (Definition × Text) := do
          if next.length < rest.length then
            let (title, behind) ← title? next
            if hasBlankLine title then none
            else
              let remaining ← lineEnd? behind
              some (⟨labelKey label, .ofWritten target (some title)⟩, remaining)
          else none
        titled.or ((lineEnd? rest).map fun remaining =>
          (⟨labelKey label, .ofWritten target none⟩, remaining))

end Markdown

end BookMarkup
