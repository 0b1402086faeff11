/-
This file lists what a renderer takes from libraries: an imaging library that is perhaps
installed and opens image files, lexers for code listings, a reader for documents and a
renderer for captions. What the renderer does is said for every choice of them.
-/

import BookMarkup.Image.Probe
import BookMarkup.Listing.Lexer
import BookMarkup.Markdown.Reader

namespace BookMarkup

/-- The libraries that a renderer works with. -/
structure Tools where
  /-- Opens the image file at a path. -/
  openImage : Text → Image.Opening
  /-- The packages that are installed. -/
  installation : Package.Installation
  /-- The lexers for code listings. -/
  lexers : Listing.Lexers
  /-- The reader for documents. -/
  reader : Markdown.Reader
  /-- The plain markup of a short piece of Markdown. -/
  renderPlain : Text → Text

end BookMarkup
