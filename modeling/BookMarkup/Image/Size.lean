/-
This file holds the pixel size of an image and its height as a percentage of the
width, which a page needs to keep room for the image.
-/

import BookMarkup.Number.Binary64

namespace BookMarkup

namespace Image

/-- The size of an image in pixels. -/
structure Size where
  /-- The width in pixels. -/
  width : Int
  /-- The height in pixels. -/
  height : Int
  deriving DecidableEq, Repr

/-- The height as a percentage of the width with six decimal places; there is none when the
width is zero. The quotient is rounded to double precision before and after it is multiplied
by a hundred, and it is negative when the signs of width and height differ. -/
def Size.ratioPercent? (size : Size) : Option Text :=
  if size.width = 0 then none
  else
    let ratio := Number.Binary64.ofQuotient size.height.natAbs size.width.natAbs
    let sign := if (size.height < 0) != (size.width < 0) then ['-'] else []
    some (sign ++ (ratio.scale 100).toFixed 6)

end Image

end BookMarkup
