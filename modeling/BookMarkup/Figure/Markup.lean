/-
This file writes figures: the image or the embedded player, the box that keeps room for
it, and its caption.
-/

import BookMarkup.Figure.Credit
import BookMarkup.Figure.Video
import BookMarkup.Html.Autolink
import BookMarkup.Image.Size

namespace BookMarkup

namespace Figure

/-- The address of the player of a video. -/
def playerAddress (id : Text) : Text :=
  "https://www.youtube.com/embed/".toList ++ Html.escapeAttribute id

/-- An embedded player in a box of fixed proportions. -/
def renderPlayer (id : Text) : Text :=
  "<div class=\"iframe\">\n<iframe\n  src=\"".toList ++ playerAddress id ++
    "\"\n  frameborder=\"0\"\n  allow=\"accelerometer; autoplay; encrypted-media; ".toList ++
    "gyroscope; picture-in-picture\"\n  allowfullscreen\n></iframe>\n".toList ++
    "<div class=\"ratio\" style=\"padding-top: 56.25%;\"></div>\n</div>".toList

/-- The player of a video URL. A URL without an identifier gives a player without a video. -/
def renderVideo (url : Text) : Text :=
  renderPlayer ((Video.id? url).getD [])

/-- The attributes of an image whose size is known. -/
def sizeAttributes : Option Image.Size → Text
  | none => []
  | some size =>
    " width=\"".toList ++ Text.ofInt size.width ++ "\" height=\"".toList ++
      Text.ofInt size.height ++ "\" loading=\"lazy\"".toList

/-- An image; its source and its alternative text are escaped already. -/
def renderImage (source alternative : Text) (size : Option Image.Size) (xhtml : Bool) : Text :=
  "<div class=\"img\"><img alt=\"".toList ++ alternative ++ "\" src=\"".toList ++ source ++
    ['"'] ++ sizeAttributes size ++ (if xhtml then " /".toList else []) ++ "></div>".toList

/-- The box that keeps room for an image of known size. An image without width has none. -/
def renderPlaceholder? : Option Image.Size → Option Text
  | none => some []
  | some size =>
    size.ratioPercent?.map fun ratio =>
      "<div class=\"ratio\" style=\"padding-top: ".toList ++ ratio ++ "%;\"></div>".toList

/-- The footer that gives the credit, with its URLs linked. -/
def renderCredit : Option Text → Text
  | none | some [] => []
  | some credit => "<footer>".toList ++ Html.autolink credit ++ "</footer>".toList

/-- A figure with further classes, its placeholder and its caption. -/
def render (content : Text) (classes : List Text) (placeholder caption : Text) : Text :=
  "\n<figure>\n<div class=\"".toList ++ Text.join [' '] ("image".toList :: classes) ++
    "\">\n".toList ++ content ++ ['\n'] ++ placeholder ++ "\n</div>\n".toList ++ caption ++
    "</figure>\n".toList

end Figure

end BookMarkup
