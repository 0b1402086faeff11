/-
This file reads start tags the way a browser does, one character after the other: the name
of the tag, then its attributes up to the closing bracket. A value in quotes reaches up to
the next quote of its kind, whatever else it holds. So a value without quotes is read as it
was written, and reading goes on behind its closing quote.
-/

import BookMarkup.Proofs.Html.Attribute
import BookMarkup.Proofs.Text.Number
import BookMarkup.Proofs.Text.Occurrence

namespace BookMarkup

namespace Html

/-! ### Tags -/

/-- A start tag. Names and values are given as they are written. -/
structure StartTag where
  /-- The name of the tag. -/
  name : Text
  /-- The attributes in order. An attribute need not have a value. -/
  attributes : List (Text × Option Text)
  /-- Whether a slash stands in front of the closing bracket. -/
  isVoid : Bool
  deriving DecidableEq, Repr

/-- The tag with one more attribute. -/
def StartTag.add (tag : StartTag) (name : Text) (value : Option Text) : StartTag :=
  { tag with attributes := tag.attributes ++ [(name, value)] }

/-! ### Reading -/

/-- Where in a tag reading stands. -/
inductive TagPlace where
  /-- In the name of the tag. -/
  | tagName
  /-- Between attributes. -/
  | gap
  /-- In the name of an attribute. -/
  | name (name : Text)
  /-- Among the blanks behind the name of an attribute. -/
  | behindName (name : Text)
  /-- In front of the value of an attribute. -/
  | equals (name : Text)
  /-- In a value between quotes. -/
  | quoted (quote : Char) (name value : Text)
  /-- In a value without quotes. -/
  | unquoted (name value : Text)
  /-- Behind a slash. -/
  | slash
  /-- Behind the closing bracket. -/
  | closed
  deriving DecidableEq, Repr

/-- A blank between the parts of a tag. -/
def isTagBlank (c : Char) : Bool :=
  c == ' ' || c == '\n' || c == '\t' || c == '\r' || c == '\x0c'

/-- A character that ends a name. -/
def endsName (c : Char) : Bool :=
  isTagBlank c || c == '/' || c == '>'

/-- Reads a character between attributes. -/
def readInGap (tag : StartTag) (c : Char) : StartTag × TagPlace :=
  if isTagBlank c then (tag, .gap)
  else if c = '/' then (tag, .slash)
  else if c = '>' then (tag, .closed)
  else (tag, .name [c])

/-- Reads a character of a tag: the tag so far and where reading stands next. -/
def readTagChar (tag : StartTag) (c : Char) : TagPlace → StartTag × TagPlace
  | .tagName =>
    if endsName c then readInGap tag c else ({ tag with name := tag.name ++ [c] }, .tagName)
  | .gap => readInGap tag c
  | .name name =>
    if c = '=' then (tag, .equals name)
    else if isTagBlank c then (tag, .behindName name)
    else if endsName c then readInGap (tag.add name none) c
    else (tag, .name (name ++ [c]))
  | .behindName name =>
    if c = '=' then (tag, .equals name)
    else if isTagBlank c then (tag, .behindName name)
    else readInGap (tag.add name none) c
  | .equals name =>
    if isTagBlank c then (tag, .equals name)
    else if c = '"' || c = '\'' then (tag, .quoted c name [])
    else if c = '>' then (tag.add name (some []), .closed)
    else (tag, .unquoted name [c])
  | .quoted quote name value =>
    if c = quote then (tag.add name (some value), .gap)
    else (tag, .quoted quote name (value ++ [c]))
  | .unquoted name value =>
    if isTagBlank c then (tag.add name (some value), .gap)
    else if c = '>' then (tag.add name (some value), .closed)
    else (tag, .unquoted name (value ++ [c]))
  | .slash => if c = '>' then ({ tag with isVoid := true }, .closed) else readInGap tag c
  | .closed => (tag, .closed)

/-- Reads a tag from some place in it to its end: the tag and the text behind it. -/
def readTagFrom (tag : StartTag) : TagPlace → Text → Option (StartTag × Text)
  | .closed, text => some (tag, text)
  | _, [] => none
  | place, c :: rest =>
    let (next, after) := readTagChar tag c place
    readTagFrom next after rest

/-- Reads the start tag that a text starts with. -/
def readTag? : Text → Option (StartTag × Text)
  | '<' :: first :: rest =>
    if first.isAlpha then readTagFrom ⟨[first], [], false⟩ .tagName rest else none
  | _ => none

/-! ### What is read as it was written -/

theorem readTagFrom_cons {place : TagPlace} (inside : place ≠ .closed) (tag : StartTag) (c : Char)
    (rest : Text) :
    readTagFrom tag place (c :: rest) =
      readTagFrom (readTagChar tag c place).1 (readTagChar tag c place).2 rest := by
  rw [readTagFrom]
  exact inside

theorem readTagFrom_closed (tag : StartTag) (rest : Text) :
    readTagFrom tag .closed rest = some (tag, rest) := by
  rw [readTagFrom]

/-- Blanks between attributes are passed over. -/
theorem readTagFrom_blanks {blanks : Text} (blank : blanks.all isTagBlank = true) (tag : StartTag)
    (rest : Text) : readTagFrom tag .gap (blanks ++ rest) = readTagFrom tag .gap rest := by
  induction blanks with
  | nil => rfl
  | cons head blanks inductionHypothesis =>
    simp only [List.all_cons, Bool.and_eq_true] at blank
    have step : readTagChar tag head .gap = (tag, .gap) := if_pos blank.1
    rw [List.cons_append, readTagFrom_cons (by decide), step, inductionHypothesis blank.2]

/-- A bracket between attributes ends the tag. -/
theorem readTagFrom_bracket (tag : StartTag) (rest : Text) :
    readTagFrom tag .gap ('>' :: rest) = some (tag, rest) :=
  readTagFrom_closed tag rest

/-- A slash in front of the bracket makes the tag void. -/
theorem readTagFrom_void (tag : StartTag) (rest : Text) :
    readTagFrom tag .gap (" />".toList ++ rest) = some ({ tag with isVoid := true }, rest) :=
  readTagFrom_closed { tag with isVoid := true } rest

/-- A character in the name of an attribute. -/
def isNameChar (c : Char) : Bool :=
  !endsName c && c != '='

theorem readTagFrom_name_append {name : Text} (named : name.all isNameChar = true)
    (tag : StartTag) (front rest : Text) :
    readTagFrom tag (.name front) (name ++ rest) =
      readTagFrom tag (.name (front ++ name)) rest := by
  induction name generalizing front with
  | nil => rw [List.nil_append, List.append_nil]
  | cons head name inductionHypothesis =>
    simp only [List.all_cons, Bool.and_eq_true] at named
    obtain ⟨part, others⟩ := named
    simp only [isNameChar, endsName, Bool.and_eq_true, Bool.not_eq_true', Bool.or_eq_false_iff,
      bne_iff_ne, beq_eq_false_iff_ne, ne_eq] at part
    have step : readTagChar tag head (.name front) = (tag, .name (front ++ [head])) := by
      simp [readTagChar, endsName, part]
    rw [List.cons_append, readTagFrom_cons (by simp), step, inductionHypothesis others,
      List.append_assoc, List.singleton_append]

/-- The name of an attribute is read as a whole. -/
theorem readTagFrom_name {name : Text} (nonempty : name ≠ []) (named : name.all isNameChar = true)
    (tag : StartTag) (rest : Text) :
    readTagFrom tag .gap (name ++ rest) = readTagFrom tag (.name name) rest := by
  obtain ⟨first, others, rfl⟩ := List.exists_cons_of_ne_nil nonempty
  simp only [List.all_cons, Bool.and_eq_true] at named
  obtain ⟨part, named⟩ := named
  simp only [isNameChar, endsName, Bool.and_eq_true, Bool.not_eq_true', Bool.or_eq_false_iff,
    bne_iff_ne, beq_eq_false_iff_ne, ne_eq] at part
  have step : readTagChar tag first .gap = (tag, .name [first]) := by
    simp [readTagChar, readInGap, part]
  rw [List.cons_append, readTagFrom_cons (by decide), step, readTagFrom_name_append named,
    List.singleton_append]

/-- A value without its quote is read up to that quote. -/
theorem readTagFrom_quoted {quote : Char} {value : Text} (sealed : quote ∉ value) (tag : StartTag)
    (name front rest : Text) :
    readTagFrom tag (.quoted quote name front) (value ++ quote :: rest) =
      readTagFrom (tag.add name (some (front ++ value))) .gap rest := by
  have step (front rest : Text) (c : Char) :
      readTagFrom tag (.quoted quote name front) (c :: rest) =
        if c = quote then readTagFrom (tag.add name (some front)) .gap rest
        else readTagFrom tag (.quoted quote name (front ++ [c])) rest := by
    have chosen : readTagChar tag c (.quoted quote name front) =
        if c = quote then (tag.add name (some front), .gap)
        else (tag, .quoted quote name (front ++ [c])) := rfl
    rw [readTagFrom_cons (by simp), chosen]
    split_ifs <;> rfl
  induction value generalizing front with
  | nil => rw [List.nil_append, List.append_nil, step, if_pos rfl]
  | cons head value inductionHypothesis =>
    simp only [List.mem_cons, not_or] at sealed
    rw [List.cons_append, step, if_neg (Ne.symm sealed.1), inductionHypothesis sealed.2,
      List.append_assoc, List.singleton_append]

/-- How an attribute with a value is written. -/
def writeAttribute (name value : Text) : Text :=
  name ++ "=\"".toList ++ value ++ ['"']

/-- An attribute is read as it was written. -/
theorem readTagFrom_written {name value : Text} (nonempty : name ≠ [])
    (named : name.all isNameChar = true) (sealed : '"' ∉ value) (tag : StartTag) (rest : Text) :
    readTagFrom tag .gap (writeAttribute name value ++ rest) =
      readTagFrom (tag.add name (some value)) .gap rest := by
  have spelled : writeAttribute name value ++ rest =
      name ++ '=' :: '"' :: (value ++ '"' :: rest) := by
    simp [writeAttribute]
  rw [spelled, readTagFrom_name nonempty named]
  exact readTagFrom_quoted sealed tag name [] rest

/-! ### Sealed tags -/

/-- Whether no attribute value of a tag holds a double quote or an angle bracket. -/
def StartTag.IsSealed (tag : StartTag) : Prop :=
  ∀ entry ∈ tag.attributes, ∀ value ∈ entry.2, '"' ∉ value ∧ '<' ∉ value ∧ '>' ∉ value

/-- Whether the first tag of its name that a browser finds in a text is the given one with `behind`
following it, and none of its values holds a double quote or an angle bracket. -/
def Opens (tag : StartTag) (html behind : Text) : Prop :=
  tag.IsSealed ∧ ∃ front inner, html = front ++ inner ∧
    Text.occursIn ('<' :: tag.name) front = false ∧ readTag? inner = some (tag, behind)

/-- A value without reserved characters is sealed. -/
theorem isSealed_of_not_reserved {value : Text}
    (plain : ∀ c ∈ value, isReservedInAttribute c = false) :
    '"' ∉ value ∧ '<' ∉ value ∧ '>' ∉ value :=
  ⟨fun member => absurd (plain _ member) (by decide),
    fun member => absurd (plain _ member) (by decide),
    fun member => absurd (plain _ member) (by decide)⟩

/-- An escaped value is sealed. -/
theorem isSealed_escapeAttribute (text : Text) :
    '"' ∉ escapeAttribute text ∧ '<' ∉ escapeAttribute text ∧ '>' ∉ escapeAttribute text :=
  isSealed_of_not_reserved fun _ member => not_reserved_of_mem_escapeAttribute member

theorem not_reserved_of_mem_ofInt {number : Int} {c : Char} (member : c ∈ Text.ofInt number) :
    isReservedInAttribute c = false := by
  rcases Text.isDigit_of_mem_ofInt member with rfl | digit
  · decide
  · simp only [isReservedInAttribute, Bool.or_eq_false_iff, beq_eq_false_iff_ne]
    refine ⟨⟨⟨?_, ?_⟩, ?_⟩, ?_⟩ <;> rintro rfl <;> exact absurd digit (by decide)

end Html

end BookMarkup
