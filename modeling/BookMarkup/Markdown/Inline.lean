/-
This file holds the inline constructs of Markdown, the content of a paragraph or a
heading, and joins neighbouring runs of text into one.
-/

import BookMarkup.Text.Basic

namespace BookMarkup

namespace Markdown

/-- An inline construct. -/
inductive Inline where
  /-- A run of text, with character references as the author wrote them. -/
  | text (source : Text)
  /-- The end of a line inside a paragraph. -/
  | softBreak
  /-- A line break that the author asked for. -/
  | hardBreak
  /-- Code. -/
  | code (source : Text)
  /-- A raw tag. -/
  | html (source : Text)
  | emphasis (children : List Inline)
  | strong (children : List Inline)
  | strikethrough (children : List Inline)
  /-- A link to a target, perhaps with a title. -/
  | link (children : List Inline) (target : Text) (title : Option Text)
  /-- An image at a target; its children are the alternative text. -/
  | image (children : List Inline) (target : Text) (title : Option Text)
  deriving Repr

/-- Puts a construct in front of others; two neighbouring runs of text become one. -/
def consMerged (first : Inline) (others : List Inline) : List Inline :=
  match first, others with
  | .text left, .text right :: rest => .text (left ++ right) :: rest
  | _, _ => first :: others

/-- Joins neighbouring runs of text. -/
def mergeText : List Inline → List Inline
  | [] => []
  | first :: others => consMerged first (mergeText others)

/-- The constructs of a block. A block without any holds one empty run of text. -/
def orEmptyText (inlines : List Inline) : List Inline :=
  if inlines.isEmpty then [.text []] else inlines

end Markdown

end BookMarkup
