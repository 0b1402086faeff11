/-
This file lists the constructs that the renderer tells apart, the words they are
written as, and which of them occupy a block of their own.
-/

import BookMarkup.Text.Quoted

namespace BookMarkup

/-- A syntactic construct of a document. -/
inductive Construct where
  | heading
  | paragraph
  | html
  | inlineHtml
  | table
  | tableRow
  | tableCell
  | code
  | rule
  | list
  | listItem
  | checkbox
  | quote
  | image
  | link
  | strong
  | emphasis
  | codeSpan
  | lineBreak
  | deleted
  | text
  deriving DecidableEq, Repr

namespace Construct

/-- All constructs. -/
def all : List Construct :=
  [heading, paragraph, html, inlineHtml, table, tableRow, tableCell, code, rule, list, listItem,
   checkbox, quote, image, link, strong, emphasis, codeSpan, lineBreak, deleted, text]

/-- The word that a construct is written as. -/
def word : Construct → Text
  | heading => "heading".toList
  | paragraph => "paragraph".toList
  | html => "html".toList
  | inlineHtml => "inline_html".toList
  | table => "table".toList
  | tableRow => "table_row".toList
  | tableCell => "table_cell".toList
  | code => "code".toList
  | rule => "hr".toList
  | list => "list".toList
  | listItem => "list_item".toList
  | checkbox => "checkbox".toList
  | quote => "blockquote".toList
  | image => "image".toList
  | link => "link".toList
  | strong => "strong".toList
  | emphasis => "em".toList
  | codeSpan => "codespan".toList
  | lineBreak => "br".toList
  | deleted => "del".toList
  | text => "text".toList

/-- The construct that a word stands for. -/
def ofWord? (written : Text) : Option Construct :=
  all.find? fun construct => construct.word == written

/-- The message about a word that stands for no construct. -/
def unknownMessage (written : Text) : Text :=
  Quoted.encode written ++ " is not a valid ConstructKind".toList

/-- Whether a construct occupies a block of its own. -/
def isBlock : Construct → Bool
  | heading | html | table | code | rule | list | quote | paragraph | tableRow | tableCell => true
  | _ => false

end Construct

end BookMarkup
