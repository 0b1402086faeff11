/-
This file probes the size of an image file. Probing is guarded: it needs the imaging
library in a recent version. The library opens the file; it may refuse it, or raise the
error for an image of too many pixels, which probing does not expect. A size that cannot
be read is one thing, and an error that passes through probing is another.
-/

import BookMarkup.Image.Size
import BookMarkup.Package.Guard

namespace BookMarkup

namespace Image

/-! ### Opening a file -/

/-- What opening an image file results in. -/
inductive Opening where
  /-- The file is an image of a size. -/
  | opened (size : Size)
  /-- The file cannot be read as an image: an operating system error, an unidentified image or a
  bad value. -/
  | refused (error : ForeignError)
  /-- The image announces more pixels than the library allows. -/
  | oversized (size : Size)
  /-- Any other error. -/
  | failed (error : ForeignError)
  deriving DecidableEq, Repr

/-- The greatest number of pixels that the library allows an image to announce. -/
def pixelLimit : Nat :=
  178956970

/-- What the imaging library promises about the files that it opens. -/
structure IsDocumented (openImage : Text → Opening) : Prop where
  /-- An opened image has pixels. -/
  positive : ∀ {path size}, openImage path = .opened size → 0 < size.width ∧ 0 < size.height
  /-- An opened image is within the limit. -/
  within : ∀ {path size}, openImage path = .opened size → size.width * size.height ≤ pixelLimit
  /-- An oversized image is not. -/
  beyond : ∀ {path size}, openImage path = .oversized size → pixelLimit < size.width * size.height
  /-- There are no further errors. -/
  expected : ∀ {path error}, openImage path ≠ .failed error

/-! ### What goes wrong -/

/-- Why the size of an image cannot be read. -/
inductive Unreadable where
  /-- The library refuses the file. -/
  | refused (path : Text) (error : ForeignError)
  /-- The image has no pixels. -/
  | empty (path : Text)
  /-- The library is missing or outdated. -/
  | lacking (lack : Package.Lack)
  deriving DecidableEq, Repr

/-- The message about a size that cannot be read. -/
def Unreadable.message : Unreadable → Text
  | .refused path error =>
    "Unable to read size of '".toList ++ path ++ "': ".toList ++ error.message
  | .empty path => "Image '".toList ++ path ++ "' reports empty dimensions".toList
  | .lacking lack => lack.message

/-- An error that passes through probing. -/
inductive Escaped where
  /-- The image announces too many pixels. -/
  | oversized (size : Size)
  /-- The library raises an error that is not expected. -/
  | unexpected (error : ForeignError)
  /-- The library cannot be examined. -/
  | unexamined (problem : Package.Problem)
  deriving DecidableEq, Repr

/-- The message of an error that passes through probing. -/
def Escaped.message : Escaped → Text
  | .oversized size =>
    "Image size (".toList ++ Text.ofInt (size.width * size.height) ++
      " pixels) exceeds limit of ".toList ++ Text.ofNat pixelLimit ++
      " pixels, could be decompression bomb DOS attack.".toList
  | .unexpected error => error.message
  | .unexamined problem => problem.message

/-- Why probing an image fails. -/
inductive ProbeFailure where
  /-- The size cannot be read. -/
  | unreadable (cause : Unreadable)
  /-- Another error passes through. -/
  | escaped (error : Escaped)
  deriving DecidableEq, Repr

/-! ### Probing -/

/-- What probing needs: the imaging library. -/
def requirements : List Package.Requirement :=
  [⟨"Pillow".toList, "PIL".toList, ">=9.0.0".toList⟩]

/-- Reads the size of the image file at a path. -/
def readSize (openImage : Text → Opening) (path : Text) : Except ProbeFailure Size :=
  match openImage path with
  | .opened size =>
    if size.width = 0 ∨ size.height = 0 then .error (.unreadable (.empty path)) else .ok size
  | .refused error => .error (.unreadable (.refused path error))
  | .oversized size => .error (.escaped (.oversized size))
  | .failed error => .error (.escaped (.unexpected error))

/-- Probes the size of the image file at a path. -/
def probe (openImage : Text → Opening) (installation : Package.Installation) (path : Text) :
    Except ProbeFailure Size :=
  match installation.guard "image probing".toList requirements (readSize openImage) path with
  | .ok result => result
  | .error (.lacking lack) => .error (.unreadable (.lacking lack))
  | .error problem => .error (.escaped (.unexamined problem))

end Image

end BookMarkup
