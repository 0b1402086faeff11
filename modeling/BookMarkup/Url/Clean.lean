/-
This file cleans the target of a link: a dangerous target is rejected on request, a
relative one is resolved against the base, and what may not stand in a URL is
percent-encoded while escapes that are there already stay as they are.
-/

import BookMarkup.Url.Resolve
import BookMarkup.Url.Scheme

namespace BookMarkup

namespace Url

/-! ### Targets that need no base -/

/-- Whether a target starts with a scheme: a letter, further letters, digits, `+`, `.` or `-`,
and a colon. -/
def startsWithScheme (target : Text) : Bool :=
  let isSchemeChar := fun c => isCaselessLetter c || c.isDigit || c == '+' || c == '.' || c == '-'
  target.head?.any isCaselessLetter && (target.dropWhile isSchemeChar).head? == some ':'

/-- Whether a target means the same from everywhere or from the page itself: an empty one, one
with a scheme, a query or a fragment. A lone newline counts as empty. -/
def isOriginIndependent (target : Text) : Bool :=
  target.isEmpty || target == ['\n'] || startsWithScheme target ||
    target.head? == some '?' || target.head? == some '#'

/-! ### Cleaning -/

/-- The characters that a cleaned target keeps besides the unreserved ones. -/
def targetChars : Text :=
  ";,/?:@&=+$!*'()#".toList

/-- Percent-encodes a target. A percent sign that is there already stays single. -/
def encodeTarget (target : Text) : Text :=
  Text.replaceAll "%25".toList ['%'] (Percent.encode targetChars target)

/-- A target resolved against a base, if there is one and the target depends on it. -/
def resolveAgainst (base : Option Text) (target : Text) : Text :=
  match base with
  | some base => if base.isEmpty || isOriginIndependent target then target else resolve base target
  | none => target

/-- Cleans a target, or rejects it. -/
def clean (sanitize : Bool) (base : Option Text) (target : Text) :
    Except CharRef.LongNumber (Option Text) :=
  (rejects sanitize target).map fun rejected =>
    if rejected then none else some (encodeTarget (resolveAgainst base target))

/-! ### Targets of arbitrary code points -/

/-- A code point: a character, or half of a surrogate pair that stands alone. -/
inductive CodePoint where
  /-- A character. -/
  | scalar (value : Char)
  /-- A lone surrogate. -/
  | surrogate (value : Nat)
  deriving DecidableEq, Repr

/-- The character that a code point is. -/
def CodePoint.char? : CodePoint → Option Char
  | .scalar value => some value
  | .surrogate _ => none

/-- The text that code points spell, if none of them is a surrogate. -/
def CodePoint.text? (points : List CodePoint) : Option Text :=
  points.mapM CodePoint.char?

/-- A character in place of a code point. What stands for a surrogate is no word character and
no part of a reference or an escape, as a surrogate is none. -/
def CodePoint.standIn : CodePoint → Char
  | .scalar value => value
  | .surrogate _ => '\uFFFD'

/-- Cleans a target that may hold surrogates. A surrogate has no UTF-8 form, so a target with
one is never cleaned; it is checked all the same. -/
def cleanCodePoints (sanitize : Bool) (base : Option Text) (points : List CodePoint) :
    Except CharRef.LongNumber (Option Text) :=
  match CodePoint.text? points with
  | some target => clean sanitize base target
  | none => (rejects sanitize (points.map CodePoint.standIn)).map fun _ => none

end Url

end BookMarkup
