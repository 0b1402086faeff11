/-
This file names the kinds of tokens in a code listing and the highlight categories that
they are shown in. A kind is a path below the root of all kinds, and it belongs to
every kind whose path its own path starts with. A table gives categories to kinds, the
special ones in front of the general ones, and the first entry that a kind belongs to
decides.
-/

import BookMarkup.Text.Basic

namespace BookMarkup

namespace Listing

/-! ### Kinds -/

/-- A token kind: the components of its path below the root. -/
abbrev TokenKind := List Text

/-- The kind that written components name. A component `Token` at the front names the root
itself, and the short names of strings and numbers stand for the kinds of literals. -/
def TokenKind.ofComponents : List Text → TokenKind
  | [] => []
  | first :: others =>
    if first = "Token".toList then ofComponents others
    else if first = "String".toList || first = "Number".toList then
      "Literal".toList :: first :: others
    else first :: others

/-- The kind that a dotted path writes; the empty text is the root. -/
def TokenKind.ofText (text : Text) : TokenKind :=
  if text.isEmpty then [] else ofComponents (Text.parts '.' text)

/-- Whether a kind belongs to a parent. -/
def TokenKind.belongsTo (kind parent : TokenKind) : Bool :=
  List.isPrefixOf parent kind

/-- A token: its kind and its text. -/
abbrev Token := TokenKind × Text

/-- The text that tokens spell together. -/
def spelling (tokens : List Token) : Text :=
  tokens.flatMap Prod.snd

theorem spelling_nil : spelling [] = [] := rfl

theorem spelling_cons (kind : TokenKind) (text : Text) (others : List Token) :
    spelling ((kind, text) :: others) = text ++ spelling others := rfl

theorem spelling_append (left right : List Token) :
    spelling (left ++ right) = spelling left ++ spelling right :=
  List.flatMap_append

/-! ### Categories -/

/-- The categories of kinds, special kinds first. -/
def categoryTable : List (TokenKind × Text) :=
  [(["Comment".toList, "Preproc".toList], "meta".toList),
   (["Comment".toList, "PreprocFile".toList], "meta".toList),
   (["Comment".toList], "comment".toList),
   (["Literal".toList, "String".toList, "Doc".toList], "comment".toList),
   (["Keyword".toList, "Type".toList], "type".toList),
   (["Keyword".toList, "Constant".toList], "literal".toList),
   (["Keyword".toList], "keyword".toList),
   (["Operator".toList, "Word".toList], "keyword".toList),
   (["Name".toList, "Builtin".toList, "Pseudo".toList], "variable".toList),
   (["Name".toList, "Builtin".toList], "built_in".toList),
   (["Name".toList, "Function".toList], "title".toList),
   (["Name".toList, "Class".toList], "title".toList),
   (["Name".toList, "Decorator".toList], "meta".toList),
   (["Name".toList, "Tag".toList], "name".toList),
   (["Name".toList, "Attribute".toList], "attr".toList),
   (["Name".toList, "Variable".toList], "variable".toList),
   (["Name".toList, "Constant".toList], "variable".toList),
   (["Name".toList, "Entity".toList], "symbol".toList),
   (["Name".toList, "Label".toList], "symbol".toList),
   (["Literal".toList, "String".toList, "Regex".toList], "regexp".toList),
   (["Literal".toList, "String".toList, "Escape".toList], "char escape_".toList),
   (["Literal".toList, "String".toList], "string".toList),
   (["Literal".toList, "Number".toList], "number".toList),
   (["Literal".toList], "literal".toList),
   (["Generic".toList, "Deleted".toList], "deletion".toList),
   (["Generic".toList, "Inserted".toList], "addition".toList),
   (["Generic".toList, "Heading".toList], "section".toList),
   (["Generic".toList, "Subheading".toList], "section".toList),
   (["Generic".toList, "Emph".toList], "emphasis".toList),
   (["Generic".toList, "Strong".toList], "strong".toList)]

/-- The category of a kind: that of the first entry in a table which the kind belongs to. -/
def categoryIn (table : List (TokenKind × Text)) (kind : TokenKind) : Option Text :=
  (table.find? fun (parent, _) => kind.belongsTo parent).map Prod.snd

/-- The highlight category of a kind, if it has one. -/
def category (kind : TokenKind) : Option Text :=
  categoryIn categoryTable kind

end Listing

end BookMarkup
