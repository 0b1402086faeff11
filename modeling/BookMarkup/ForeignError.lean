/-
This file holds an error that a library raises: the name of its kind and its message.
-/

import BookMarkup.Text.Basic

namespace BookMarkup

/-- An error that a library raises. -/
structure ForeignError where
  /-- The name of its kind. -/
  kind : Text
  /-- What it says. -/
  message : Text
  deriving DecidableEq, Repr

end BookMarkup
