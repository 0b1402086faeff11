/-
This file says what rendering needs of the reader of Markdown: documents are read into
blocks, and the source of a block into inline constructs once the definitions of the
document are known.
-/

import BookMarkup.Markdown.Block
import BookMarkup.Markdown.Inline

namespace BookMarkup

namespace Markdown

/-- A reader of Markdown. -/
structure Reader where
  /-- The blocks of a document. -/
  blocks : Text → List Block
  /-- The inline constructs of a source, given the definitions of its document. -/
  inlines : List Definition → Text → List Inline

end Markdown

end BookMarkup
