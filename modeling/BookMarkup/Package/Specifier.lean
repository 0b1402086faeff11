/-
This file reads version specifiers and decides which versions meet them. A list of
specifiers is separated by commas and met when each of its members is; the empty list
is met by every version. Whoever compares versions may follow other rules than those for
dotted numbers, so the rules are a value of their own.
-/

import BookMarkup.Package.Version
import BookMarkup.Text.Blank

namespace BookMarkup

namespace Package

/-- One demand on a version. -/
inductive Specifier where
  | atLeast (bound : Version)
  | atMost (bound : Version)
  | below (bound : Version)
  | above (bound : Version)
  | equal (bound : Version)
  | different (bound : Version)
  /-- The version starts with these components. -/
  | within (family : Version)
  /-- The version does not start with these components. -/
  | outside (family : Version)
  /-- At least this version and in the family of all but its last component. -/
  | compatible (bound : Version)
  deriving DecidableEq, Repr

namespace Specifier

/-- Whether a version meets a demand. -/
def isMetBy (version : Version) : Specifier → Bool
  | .atLeast bound => version.compare bound != .lt
  | .atMost bound => version.compare bound != .gt
  | .below bound => version.compare bound == .lt
  | .above bound => version.compare bound == .gt
  | .equal bound => version.compare bound == .eq
  | .different bound => version.compare bound != .eq
  | .within family => version.startsWith family
  | .outside family => !version.startsWith family
  | .compatible bound => version.compare bound != .lt && version.startsWith bound.dropLast

/-- The version behind an operator, with blanks in front of it. -/
def version? (text : Text) : Option Version :=
  Version.ofText? (Text.trimStart text)

/-- The family behind an operator: a version that goes on with a dot and a star. -/
def family? (text : Text) : Option Version :=
  (Text.before? ['.', '*'] text).bind version?

/-- The demand that a text without blanks around it writes. -/
def ofText? : Text → Option Specifier
  | '>' :: '=' :: rest => (version? rest).map .atLeast
  | '<' :: '=' :: rest => (version? rest).map .atMost
  | '=' :: '=' :: rest => ((family? rest).map .within).or ((version? rest).map .equal)
  | '!' :: '=' :: rest => ((family? rest).map .outside).or ((version? rest).map .different)
  | '~' :: '=' :: rest =>
    ((version? rest).filter fun bound => 2 ≤ bound.length).map .compatible
  | '<' :: rest => (version? rest).map .below
  | '>' :: rest => (version? rest).map .above
  | _ => none

end Specifier

/-- The written demands of a list: its parts without blanks around them and without empty
ones. -/
def demandsOf (text : Text) : List Text :=
  ((Text.parts ',' text).map Text.trim).filter fun part => !part.isEmpty

/-- The demands of a list, or the first part that is none. -/
def readDemands : List Text → Except Text (List Specifier)
  | [] => .ok []
  | first :: others =>
    match Specifier.ofText? first with
    | none => .error first
    | some demand =>
      match readDemands others with
      | .error part => .error part
      | .ok demands => .ok (demand :: demands)

/-- Whether a version meets all of some demands. -/
def meetsAll (version : Version) (demands : List Specifier) : Bool :=
  demands.all (Specifier.isMetBy version)

/-- How versions and demands are written, and which version meets which demand. -/
structure Rules (Release Demand : Type) where
  /-- The version that a text writes. -/
  version? : Text → Option Release
  /-- The demand that a text writes, or the part of it that is none. -/
  demand : Text → Except Text Demand
  /-- Whether a version meets a demand. -/
  meets : Release → Demand → Bool

/-- The rules for versions that are dotted numbers. -/
def Rules.dotted : Rules Version (List Specifier) where
  version? := Version.ofText?
  demand text := readDemands (demandsOf text)
  meets := meetsAll

end Package

end BookMarkup
