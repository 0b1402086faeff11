/-
This file decides whether a URL has a scheme that can run script. The decision looks
at what is left of the URL after character references and percent-escapes are decoded
and everything but word characters and colons is dropped, so that spelling the scheme
with escapes or punctuation in between does not hide it.
-/

import BookMarkup.Html.CharRef
import BookMarkup.Text.Word

namespace BookMarkup

namespace Url

/-- The schemes that can run script, with their colons. -/
def scriptSchemes : List Text :=
  ["javascript:".toList, "vbscript:".toList, "data:".toList]

/-- The word characters and colons of a text. -/
def wordsAndColons (text : Text) : Text :=
  text.filter fun c => isWord c || c == ':'

/-- Whether a decoded URL starts with a script scheme once all but word characters and colons
is dropped. -/
def startsWithScriptScheme (decoded : Text) : Bool :=
  scriptSchemes.any fun scheme => scheme.isPrefixOf (Text.lower (wordsAndColons decoded))

/-- Whether a URL whose references are decoded is suspected of running script. A URL whose escapes
spell no text is suspect. -/
def isSuspect (unescaped : Text) : Bool :=
  match Percent.decode? unescaped with
  | none => true
  | some decoded => startsWithScriptScheme decoded

/-- Checks whether a URL can run script. A reference with too long a number ends the check. -/
def check (url : Text) : Except CharRef.LongNumber Bool :=
  (CharRef.unescape url).map isSuspect

/-- Whether a URL is rejected: on request, one that can run script is. -/
def rejects (sanitize : Bool) (url : Text) : Except CharRef.LongNumber Bool :=
  if sanitize then check url else .ok false

end Url

end BookMarkup
