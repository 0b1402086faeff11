/-
This file holds the files that a document may refer to and looks a path up among them,
component by component as a file system does: every component but the last has to name
a directory, and double dots lead to the directory above. A path with a slash in front
starts at the root, every other one at the working directory.
-/

import BookMarkup.Storage.Path

namespace BookMarkup

/-- What a path can name. -/
inductive Entry where
  /-- A file with its bytes. -/
  | file (bytes : List UInt8)
  /-- A directory. -/
  | directory
  deriving DecidableEq, Repr

/-- Why a path names no readable file. -/
inductive Obstacle where
  /-- The path holds a NUL character. -/
  | nulInPath
  /-- A component of the path does not exist. -/
  | notFound
  /-- The path leads through a file as if it were a directory. -/
  | throughFile
  /-- The path names a directory. -/
  | isDirectory
  /-- A component or the whole path is too long for a file system. -/
  | tooLong
  deriving DecidableEq, Repr

/-- The files of a file system, by the components of their paths from the root. -/
structure Storage where
  /-- The components of the working directory. -/
  workingDirectory : List Text
  /-- The entries that were put there. -/
  entries : List (List Text × Entry)
  deriving DecidableEq, Repr

namespace Storage

/-- The storage that holds files under written paths. -/
def ofFiles (workingDirectory : Text) (files : List (Text × Entry)) : Storage :=
  ⟨Path.componentsOf workingDirectory,
    files.map fun (path, entry) => (Path.componentsOf (Path.joinText workingDirectory path), entry)⟩

/-- The entry at a place. The root and the working directory exist, and so does every directory
above an entry. -/
def entryAt? (storage : Storage) (place : List Text) : Option Entry :=
  if place.isPrefixOf storage.workingDirectory then some .directory
  else
    match storage.entries.lookup place with
    | some entry => some entry
    | none =>
      if storage.entries.any fun (path, _) => place.isPrefixOf path then some .directory else none

/-- The number of bytes that a text takes in UTF-8. -/
def byteLength (text : Text) : Nat :=
  (text.flatMap String.utf8EncodeChar).length

/-- Walks from a place along the parts of a path. Nothing is above the root but the root. -/
def walk (storage : Storage) : List Text → List Text → Except Obstacle Entry
  | here, [] => ((storage.entryAt? here).map .ok).getD (.error .notFound)
  | here, part :: others =>
    match storage.entryAt? here with
    | none => .error .notFound
    | some (.file _) => .error .throughFile
    | some .directory =>
      if part.isEmpty || part == ['.'] then walk storage here others
      else if part == ['.', '.'] then walk storage here.dropLast others
      else if 255 < byteLength part then .error .tooLong
      else walk storage (here ++ [part]) others

/-- The bytes of the file that a written path names. -/
def read (storage : Storage) (path : Text) : Except Obstacle (List UInt8) :=
  if path.contains '\x00' then .error .nulInPath
  else if path.isEmpty then .error .notFound
  else if 4096 ≤ byteLength path then .error .tooLong
  else
    let start := if path.head? = some '/' then [] else storage.workingDirectory
    match storage.walk start (Text.parts '/' path) with
    | .error obstacle => .error obstacle
    | .ok .directory => .error .isDirectory
    | .ok (.file bytes) => .ok bytes

end Storage

end BookMarkup
