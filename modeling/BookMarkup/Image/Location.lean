/-
This file finds the file of an image: the URL of the image is decoded and put below
the base directory. With a base directory, slashes at the front of the decoded URL do
not lead out of it.
-/

import BookMarkup.Storage.Path
import BookMarkup.Url.Percent

namespace BookMarkup

namespace Image

/-- The path of an image. Percent-escapes of the URL are decoded before slashes at its front are
dropped. -/
def pathOf (baseDirectory url : Text) : Path :=
  let decoded := Percent.decodeLossy url
  let relative := if baseDirectory.isEmpty then decoded else decoded.dropWhile (· == '/')
  Path.ofText (Path.joinText baseDirectory relative)

end Image

end BookMarkup
