/-
This file opens the image files of a storage as an imaging library does: the file is read,
its header gives the size, and an image of too many pixels is refused with an error of its
own.
-/

import BookMarkup.Image.Header
import BookMarkup.Image.Probe
import BookMarkup.Storage.Basic

namespace BookMarkup

namespace Image

/-- The error about a path that names no readable file. -/
def obstacleError (path : Text) (obstacle : Obstacle) : ForeignError :=
  let about := fun (text : String) => text.toList ++ ": ".toList ++ Quoted.encode path
  match obstacle with
  | .nulInPath => ⟨"ValueError".toList, "embedded null byte".toList⟩
  | .notFound => ⟨"FileNotFoundError".toList, about "[Errno 2] No such file or directory"⟩
  | .throughFile => ⟨"NotADirectoryError".toList, about "[Errno 20] Not a directory"⟩
  | .isDirectory => ⟨"IsADirectoryError".toList, about "[Errno 21] Is a directory"⟩
  | .tooLong => ⟨"OSError".toList, about "[Errno 36] File name too long"⟩

/-- What opening a file with a header results in. -/
def openHeader (path : Text) : Header → Opening
  | .size width height =>
    if pixelLimit < width * height then .oversized ⟨width, height⟩ else .opened ⟨width, height⟩
  | .truncated => .refused ⟨"OSError".toList, "Truncated File Read".toList⟩
  | .unrecognised =>
    .refused ⟨"UnidentifiedImageError".toList,
      "cannot identify image file ".toList ++ Quoted.encode path⟩
  | .unsupported length =>
    .refused ⟨"OSError".toList,
      "Unsupported BMP header type (".toList ++ Text.ofNat length ++ [')']⟩

/-- Opens the image file at a path in a storage. -/
def openIn (storage : Storage) (path : Text) : Opening :=
  match storage.read path with
  | .error obstacle => .refused (obstacleError path obstacle)
  | .ok bytes => openHeader path (Header.ofBytes bytes)

end Image

end BookMarkup
