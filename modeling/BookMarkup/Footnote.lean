/-
This file links footnotes by their labels. A mark `[^label]` in running text points
down at the note, and a paragraph `[^label]: body` is the note and points back up. A
mark that a parenthesis or a colon follows is no mark but a link or a note.
-/

import BookMarkup.Text.Scan

namespace BookMarkup

namespace Footnote

/-! ### Rendering -/

/-- The target that a note is reached by. -/
def noteId (label : Text) : Text :=
  "footnote:".toList ++ label

/-- The target that a mark in the text is reached by. -/
def markId (label : Text) : Text :=
  "footnote-reference:".toList ++ label

/-- A superscript that has a target of its own and links to another one. -/
def superscript (role label own other : Text) : Text :=
  "<sup class=\"".toList ++ role ++ "\" data-number=\"".toList ++ label ++ "\" id=\"".toList ++ own ++
    "\"><a href=\"#".toList ++ other ++ "\">".toList ++ label ++ "</a></sup>".toList

/-- The mark in the text that points at the note of a label. -/
def renderMark (label : Text) : Text :=
  superscript "footnote-mark".toList label (markId label) (noteId label)

/-- The note of a label: its mark, which points back at the text, and its body. -/
def renderNote (label body : Text) : Text :=
  superscript "footnote-text".toList label (noteId label) (markId label) ++ body

/-! ### Reading -/

/-- The label in front of a text and the rest behind its closing bracket. -/
def label? : Text → Option (Text × Text)
  | '[' :: '^' :: rest =>
    let label := rest.takeWhile (· != ']')
    match rest.drop label.length with
    | ']' :: behind => if label.isEmpty then none else some (label, behind)
    | _ => none
  | _ => none

/-- The pattern of a mark: a bracketed label that neither `(` nor `:` follows. -/
def markPattern : Text.Pattern := fun text =>
  match label? text with
  | some (label, behind) =>
    if behind.head? = some '(' || behind.head? = some ':' then 0 else label.length + 3
  | none => 0

/-- The label between the brackets of a mark. -/
def labelOf (mark : Text) : Text :=
  (mark.drop 2).dropLast

/-- Replaces every mark of a text by its superscript. -/
def interpolateMarks (text : Text) : Text :=
  Text.substitute markPattern (fun mark => renderMark (labelOf mark)) text

/-- The label and the body of a text that is a note as a whole. -/
def note? (text : Text) : Option (Text × Text) := do
  let (label, behind) ← label? text
  let body ← Text.after? [':'] behind
  return (label, body)

/-- Whether a text is a note. -/
def isNote (text : Text) : Bool :=
  (note? text).isSome

/-- Renders a text as a note if it is one. -/
def interpolateNote (text : Text) : Text :=
  match note? text with
  | some (label, body) => renderNote label body
  | none => text

end Footnote

end BookMarkup
