/-
This file holds normalised file paths. A path is the slashes at its root and its
components; empty components and single dots are dropped, and double dots are kept.
-/

import BookMarkup.Text.Basic

namespace BookMarkup

/-- A normalised path. -/
structure Path where
  /-- How many slashes stand at the root: none, one or two. -/
  rootSlashes : Nat
  /-- The components in order. -/
  components : List Text
  deriving DecidableEq, Repr

namespace Path

/-- The components of a path as it is written: its parts without empty ones and single dots. -/
def componentsOf (text : Text) : List Text :=
  (Text.parts '/' text).filter fun part => !part.isEmpty && part != ['.']

/-- The slashes at the root of a path as it is written. Exactly two stay two; three or more mean
the same as one. -/
def rootSlashesOf (text : Text) : Nat :=
  match (text.takeWhile (· == '/')).length with
  | 0 => 0
  | 2 => 2
  | _ => 1

/-- The path that a text writes. -/
def ofText (text : Text) : Path :=
  ⟨rootSlashesOf text, componentsOf text⟩

/-- The written form of a path; the path without root and components is a single dot. -/
def toText (path : Path) : Text :=
  if path.rootSlashes = 0 && path.components.isEmpty then ['.']
  else List.replicate path.rootSlashes '/' ++ Text.join ['/'] path.components

/-- Puts a relative path behind a directory. A path with a slash in front replaces the
directory, and an empty directory adds nothing. -/
def joinText (directory path : Text) : Text :=
  if path.head? = some '/' || directory.isEmpty then path
  else if directory.getLast? = some '/' then directory ++ path
  else directory ++ ['/'] ++ path

end Path

end BookMarkup
