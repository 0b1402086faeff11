/-
This file resolves a relative link target against a base URL. A base that names only
an origin gets a slash; any other base ends at its last slash. A target with two
slashes in front keeps the scheme of the base, one with a single slash keeps its
origin, and any other target is put behind the whole base.
-/

import BookMarkup.Text.Basic

namespace BookMarkup

namespace Url

/-- The parts of a URL before and behind its first colon, unless nothing stands before it. -/
def splitScheme? (url : Text) : Option (Text × Text) :=
  (Text.breakOn [':'] url).filter fun (scheme, _) => !scheme.isEmpty

/-- A URL up to its last slash, which is included. -/
def upToLastSlash (url : Text) : Text :=
  match Text.breakOnLast ['/'] url with
  | some (before, _) => before ++ ['/']
  | none => []

/-- The part of a URL behind the slashes at its front. -/
def behindSlashes (rest : Text) : Text :=
  rest.dropWhile (· == '/')

/-- The directory that a base stands for. -/
def directoryOf (base : Text) : Text :=
  match splitScheme? base with
  | some (_, rest) => if (behindSlashes rest).contains '/' then upToLastSlash base else base ++ ['/']
  | none => upToLastSlash base

/-- The scheme of a URL with its colon, or the whole URL if it has none. -/
def schemeOf (url : Text) : Text :=
  match splitScheme? url with
  | some (scheme, _) => scheme ++ [':']
  | none => url

/-- The scheme and the authority of a URL, or the whole URL if it has no scheme. -/
def originOf (url : Text) : Text :=
  match splitScheme? url with
  | some (scheme, rest) =>
    scheme ++ [':'] ++ rest.takeWhile (· == '/') ++ (behindSlashes rest).takeWhile (· != '/')
  | none => url

/-- Resolves a target against a base. -/
def resolve (base target : Text) : Text :=
  let directory := directoryOf base
  match target with
  | '/' :: '/' :: _ => if directory.contains ':' then schemeOf directory ++ target else target
  | '/' :: _ => if directory.contains ':' then originOf directory ++ target else target
  | _ => directory ++ target

end Url

end BookMarkup
