/-
This file renders the text of a caption. Captions are written in Markdown and rendered on
their own, as plain markup, by a library. The paragraph tags that enclose the whole are
dropped, and ampersands are left bare.
-/

import BookMarkup.Text.Blank

namespace BookMarkup

namespace Caption

/-- The content of a text that is enclosed in paragraph tags, up to blanks at its end. -/
def unwrapped (html : Text) : Text :=
  match Text.after? "<p>".toList html with
  | none => html
  | some content => (Text.before? "</p>".toList (Text.trimEnd content)).getD html

/-- Renders a caption. -/
def render (renderPlain : Text → Text) (source : Text) : Text :=
  Text.replaceAll "&amp;".toList ['&'] (unwrapped (renderPlain source))

end Caption

end BookMarkup
