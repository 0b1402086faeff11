/-
This file fixes what a text is and the few operations on texts that every other
file builds on: searching for the first or the last occurrence of a needle,
replacing occurrences, cutting a text into its lines and writing a number.

A text is a list of characters. Positions count characters, and a rule about
texts is a recursion over the list, so its laws are proved by induction.
-/

namespace BookMarkup

/-- A text is the list of its characters. -/
abbrev Text := List Char

namespace Text

-- A rule for the characters of a text is decided along the text, not for every character.
instance (priority := high) decidableForallMem (rule : Char → Prop) [DecidablePred rule]
    (text : Text) : Decidable (∀ c ∈ text, rule c) :=
  List.decidableBAll rule text

instance (priority := high) decidableForallFirst (rule : Char → Prop) [DecidablePred rule]
    (first : Option Char) : Decidable (∀ c ∈ first, rule c) :=
  Option.decidableForallMem first

/-! ### Occurrences -/

/-- The rest of `text` behind `front`, when `text` starts with `front`. -/
def after? (front : Text) (text : Text) : Option Text :=
  if front.isPrefixOf text then some (text.drop front.length) else none

/-- The parts of a text before and behind the first occurrence of `needle`. -/
def breakOn (needle : Text) : Text → Option (Text × Text)
  | [] => if needle.isEmpty then some ([], []) else none
  | head :: rest =>
    match after? needle (head :: rest) with
    | some behind => some ([], behind)
    | none => (breakOn needle rest).map fun (before, behind) => (head :: before, behind)

/-- The parts of a text before and behind the last occurrence of `needle`. -/
def breakOnLast (needle : Text) : Text → Option (Text × Text)
  | [] => if needle.isEmpty then some ([], []) else none
  | head :: rest =>
    match breakOnLast needle rest with
    | some (before, behind) => some (head :: before, behind)
    | none => (after? needle (head :: rest)).map fun behind => ([], behind)

/-- Whether `needle` occurs in a text. -/
def occursIn (needle text : Text) : Bool :=
  (breakOn needle text).isSome

/-- The text in front of `tail`, when the text ends with `tail`. -/
def before? (tail : Text) (text : Text) : Option Text :=
  if tail.isSuffixOf text then some (text.take (text.length - tail.length)) else none

/-- Replaces the first occurrence of `needle`, if there is one. -/
def replaceFirst (needle replacement text : Text) : Text :=
  match breakOn needle text with
  | some (before, behind) => before ++ replacement ++ behind
  | none => text

/-- Replaces occurrences from left to right; `skip` counts the characters of the current
occurrence that are still to be passed over. -/
def replaceFrom (needle replacement : Text) : Nat → Text → Text
  | _, [] => []
  | skip + 1, _ :: rest => replaceFrom needle replacement skip rest
  | 0, head :: rest =>
    if needle.isPrefixOf (head :: rest) then
      replacement ++ replaceFrom needle replacement (needle.length - 1) rest
    else
      head :: replaceFrom needle replacement 0 rest

/-- Replaces every occurrence of a non-empty `needle`, reading from left to right without
overlap. -/
def replaceAll (needle replacement text : Text) : Text :=
  replaceFrom needle replacement 0 text

/-- Replaces every occurrence of one character by a text. -/
def replaceChar (target : Char) (replacement : Text) (text : Text) : Text :=
  text.flatMap fun c => if c = target then replacement else [c]

/-! ### Ends of a text -/

/-- Drops the characters at the end of a text that satisfy `drop`. -/
def dropEndWhile (drop : Char → Bool) (text : Text) : Text :=
  (text.reverse.dropWhile drop).reverse

/-! ### Parts between separators -/

/-- The parts of a text between the occurrences of a character; a text without it is one
part. -/
def parts (separator : Char) : Text → List Text
  | [] => [[]]
  | head :: rest =>
    if head = separator then [] :: parts separator rest
    else
      match parts separator rest with
      | [] => [[head]]
      | part :: others => (head :: part) :: others

/-- The newline-separated lines of a text; the empty text is one empty line. -/
def lines (text : Text) : List Text :=
  parts '\n' text

/-- A text in which every line end is a single newline. -/
def unifyLineEnds : Text → Text
  | '\r' :: '\n' :: rest => '\n' :: unifyLineEnds rest
  | '\r' :: rest => '\n' :: unifyLineEnds rest
  | head :: rest => head :: unifyLineEnds rest
  | [] => []

/-- Joins texts with a separator between neighbours. -/
def join (separator : Text) : List Text → Text
  | [] => []
  | [only] => only
  | first :: second :: others => first ++ separator ++ join separator (second :: others)

/-- A text has at least one part. -/
theorem parts_ne_nil (separator : Char) (text : Text) : parts separator text ≠ [] := by
  cases text with
  | nil => simp [parts]
  | cons head rest =>
    simp only [parts]
    split
    · simp
    · split <;> simp

/-- Joining the parts of a text with their separator gives the text back. -/
theorem join_parts (separator : Char) (text : Text) :
    join [separator] (parts separator text) = text := by
  induction text with
  | nil => rfl
  | cons head rest inductionHypothesis =>
    simp only [parts]
    split
    · next separates =>
      cases remaining : parts separator rest with
      | nil => exact absurd remaining (parts_ne_nil separator rest)
      | cons part others =>
        rw [remaining] at inductionHypothesis
        simp [join, inductionHypothesis, separates]
    · cases remaining : parts separator rest with
      | nil => exact absurd remaining (parts_ne_nil separator rest)
      | cons part others =>
        rw [remaining] at inductionHypothesis
        cases others with
        | nil => simpa [join] using inductionHypothesis
        | cons second others => simpa [join] using inductionHypothesis

/-! ### Numbers -/

/-- The decimal digits of a natural number. -/
def ofNat (number : Nat) : Text :=
  Nat.toDigits 10 number

/-- The decimal form of an integer: a minus sign stands before the digits of a negative
one. -/
def ofInt : Int → Text
  | .ofNat number => ofNat number
  | .negSucc number => '-' :: ofNat (number + 1)

end Text

end BookMarkup
