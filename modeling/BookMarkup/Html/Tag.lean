/-
This file recognises tags and removes them. A tag reaches from a `<` to the next `>`
with at least one character between them; that character may be another `<`.
-/

import BookMarkup.Text.Scan

namespace BookMarkup

namespace Html

/-- The pattern of a tag: a `<`, one or more other characters than `>`, and a `>`. -/
def tagPattern : Text.Pattern
  | '<' :: rest =>
    let inside := rest.takeWhile (· != '>')
    if inside.isEmpty || (rest.drop inside.length).isEmpty then 0 else inside.length + 2
  | _ => 0

/-- Removes all tags and keeps the text between them. -/
def stripTags (text : Text) : Text :=
  Text.substitute tagPattern (fun _ => []) text

/-- A place that does not start with `<` starts no tag. -/
theorem tagPattern_cons_of_ne {head : Char} (different : head ≠ '<') (rest : Text) :
    tagPattern (head :: rest) = 0 := by
  simp only [tagPattern]
  split
  · next equal => simp_all
  · rfl

end Html

end BookMarkup
