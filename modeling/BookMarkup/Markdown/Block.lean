/-
This file holds the block constructs of Markdown and the dialects in which they are
read. The text of a block is kept as source; its inline constructs are read when the
definitions of the whole document are known.
-/

import BookMarkup.Markdown.Target

namespace BookMarkup

namespace Markdown

/-- What a dialect adds to the common constructs. -/
structure Dialect where
  /-- Tables outside quotes and lists. -/
  tables : Bool
  /-- List items with a check box. -/
  tasks : Bool
  /-- Labels that start with a caret define footnotes and no references. -/
  footnotes : Bool
  deriving DecidableEq, Repr

/-- The dialect of documents. -/
def documentDialect : Dialect :=
  ⟨true, true, true⟩

/-- The dialect without additions. -/
def plainDialect : Dialect :=
  ⟨false, false, false⟩

/-- How the cells of a column are aligned. -/
inductive ColumnAlignment where
  | left
  | center
  | right
  deriving DecidableEq, Repr

/-- A block construct. -/
inductive Block where
  | heading (level : Nat) (source : Text)
  | paragraph (source : Text)
  /-- The text of an item in a list without blank lines. -/
  | bareText (source : Text)
  /-- Code with the text behind its fence, if there is one. -/
  | code (source : Text) (info : Option Text)
  | html (source : Text)
  | rule
  | quote (children : List Block)
  /-- A list of items; an ordered one has a first number. -/
  | list (start : Option Nat) (items : List Block)
  /-- An item of a list; a task is done or not. -/
  | item (task : Option Bool) (children : List Block)
  /-- A table with the alignments of its columns, its head and its rows. -/
  | table (alignments : List (Option ColumnAlignment)) (head : List Text) (rows : List (List Text))
  /-- The definition of a reference, which shows nothing. -/
  | definition (definition : Definition)
  deriving Repr

/-- The definitions in some blocks, in the order of the document. -/
def definitionsIn : List Block → List Definition
  | [] => []
  | .definition definition :: others => definition :: definitionsIn others
  | .quote children :: others => definitionsIn children ++ definitionsIn others
  | .list _ items :: others => definitionsIn items ++ definitionsIn others
  | .item _ children :: others => definitionsIn children ++ definitionsIn others
  | _ :: others => definitionsIn others

end Markdown

end BookMarkup
