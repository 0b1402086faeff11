/-
This file proves that a start tag is read as it was written exactly if no attribute value
holds a quote. A quote inside a value ends the value there, and what is read for the
attribute is shorter than what was written. Reading on can only add attributes, so it never
makes up for that.
-/

import BookMarkup.Proofs.Html.StartTag

namespace BookMarkup

namespace Html

/-! ### Reading adds attributes -/

theorem readInGap_fst (tag : StartTag) (c : Char) : (readInGap tag c).1 = tag := by
  unfold readInGap
  split_ifs <;> rfl

/-- In every place a character leaves the attributes alone or adds one. -/
theorem attributes_readTagChar (tag : StartTag) (c : Char) (place : TagPlace) :
    tag.attributes <+: (readTagChar tag c place).1.attributes := by
  have keep : tag.attributes <+: tag.attributes := List.prefix_rfl
  have add (name : Text) (value : Option Text) :
      tag.attributes <+: (tag.add name value).attributes := List.prefix_append _ _
  have gap : tag.attributes <+: (readInGap tag c).1.attributes := by rw [readInGap_fst]
  have addInGap (name : Text) :
      tag.attributes <+: (readInGap (tag.add name none) c).1.attributes := by
    rw [readInGap_fst]
    exact add name none
  unfold readTagChar
  cases place with
  | gap => exact gap
  | closed => exact keep
  | _ =>
    dsimp only
    split_ifs <;> first | exact keep | exact gap | exact add _ _ | exact addInGap _

/-- The attributes that were read stay the first ones of the tag. -/
theorem attributes_readTagFrom {tag result : StartTag} {place : TagPlace} {text behind : Text}
    (reads : readTagFrom tag place text = some (result, behind)) :
    tag.attributes <+: result.attributes := by
  induction text generalizing tag place with
  | nil =>
    cases place <;> cases reads
    exact List.prefix_rfl
  | cons head rest inductionHypothesis =>
    by_cases inside : place = .closed
    · subst inside
      rw [readTagFrom_closed] at reads
      cases reads
      exact List.prefix_rfl
    · rw [readTagFrom_cons inside] at reads
      exact (attributes_readTagChar tag head place).trans (inductionHypothesis reads)

/-! ### Writing -/

/-- A start tag all attributes of which have values. -/
structure PlainTag where
  /-- The name of the tag. -/
  name : Text
  /-- The attributes in order. -/
  attributes : List (Text × Text)
  deriving DecidableEq, Repr

/-- How the attributes of a tag are written. -/
def writeAttributes (attributes : List (Text × Text)) : Text :=
  attributes.flatMap fun entry => ' ' :: writeAttribute entry.1 entry.2

namespace PlainTag

/-- How a tag is written. -/
def write (tag : PlainTag) : Text :=
  ['<'] ++ tag.name ++ writeAttributes tag.attributes ++ ['>']

/-- What a browser is to read. -/
def start (tag : PlainTag) : StartTag :=
  ⟨tag.name, tag.attributes.map fun entry => (entry.1, some entry.2), false⟩

/-- Whether a tag and its attributes have names. -/
structure IsNamed (tag : PlainTag) : Prop where
  starts : ∃ first ∈ tag.name.head?, first.isAlpha = true
  named : tag.name.all (fun c => !endsName c) = true
  attributes : ∀ name ∈ tag.attributes.map Prod.fst, name ≠ [] ∧ name.all isNameChar = true

/-- Whether no value of a tag holds a quote. -/
def IsQuoteFree (tag : PlainTag) : Prop :=
  ∀ entry ∈ tag.attributes, '"' ∉ entry.2

/-- Whether a browser reads a tag as it was written, whatever follows it. -/
def IsReadBack (tag : PlainTag) : Prop :=
  ∀ rest, readTag? (tag.write ++ rest) = some (tag.start, rest)

end PlainTag

/-! ### Reading what was written -/

theorem readTagFrom_writeAttributes_iff {attributes : List (Text × Text)}
    (named : ∀ entry ∈ attributes, entry.1 ≠ [] ∧ entry.1.all isNameChar = true)
    (tag : StartTag) (rest : Text) :
    readTagFrom tag .gap (writeAttributes attributes ++ '>' :: rest) =
        some ({ tag with attributes :=
          tag.attributes ++ attributes.map fun entry => (entry.1, some entry.2) }, rest) ↔
      ∀ entry ∈ attributes, '"' ∉ entry.2 := by
  induction attributes generalizing tag with
  | nil =>
    show readTagFrom tag .gap ('>' :: rest) = _ ↔ _
    rw [readTagFrom_bracket, List.map_nil, List.append_nil]
    exact ⟨fun _ => List.forall_mem_nil _, fun _ => rfl⟩
  | cons entry others inductionHypothesis =>
    obtain ⟨name, value⟩ := entry
    obtain ⟨⟨nonempty, isName⟩, othersNamed⟩ := List.forall_mem_cons.mp named
    have blank (behind : Text) : readTagFrom tag .gap (' ' :: behind) =
        readTagFrom tag .gap behind :=
      readTagFrom_blanks (by decide : [' '].all isTagBlank = true) tag behind
    have spelled : writeAttributes ((name, value) :: others) ++ '>' :: rest =
        ' ' :: (writeAttribute name value ++ (writeAttributes others ++ '>' :: rest)) := by
      simp [writeAttributes]
    rw [spelled, blank, List.forall_mem_cons]
    by_cases quoted : '"' ∈ value
    · -- The value ends at its first quote, and no attribute that is read later is the one written.
      obtain ⟨front, behind, rfl, isFirst⟩ := List.eq_append_cons_of_mem quoted
      have cut (tail : Text) : writeAttribute name (front ++ '"' :: behind) ++ tail =
          writeAttribute name front ++ (behind ++ '"' :: tail) := by
        simp [writeAttribute]
      rw [cut, readTagFrom_written nonempty isName isFirst]
      refine ⟨fun reads => ?_, fun free => absurd quoted free.1⟩
      have starts := attributes_readTagFrom reads
      have entries := (List.prefix_append_right_inj tag.attributes).mp starts
      have same := congrArg Prod.snd (List.cons_prefix_cons.mp entries).1
      have length := congrArg List.length (Option.some.inj same)
      rw [List.length_append, List.length_cons] at length
      omega
    · have attributes : tag.attributes ++
          ((name, value) :: others).map (fun entry => (entry.1, some entry.2)) =
            (tag.add name (some value)).attributes ++
              others.map (fun entry => (entry.1, some entry.2)) :=
        (List.append_assoc tag.attributes [(name, some value)] _).symm
      rw [readTagFrom_written nonempty isName quoted, attributes]
      exact (inductionHypothesis othersNamed (tag.add name (some value))).trans
        ⟨fun free => ⟨quoted, free⟩, fun free => free.2⟩

theorem readTagFrom_tagName {name : Text} (named : name.all (fun c => !endsName c) = true)
    (tag : StartTag) (rest : Text) :
    readTagFrom tag .tagName (name ++ rest) =
      readTagFrom { tag with name := tag.name ++ name } .tagName rest := by
  induction name generalizing tag with
  | nil => rw [List.nil_append, List.append_nil]
  | cons head name inductionHypothesis =>
    simp only [List.all_cons, Bool.and_eq_true, Bool.not_eq_true'] at named
    have step : readTagChar tag head .tagName =
        ({ tag with name := tag.name ++ [head] }, .tagName) := by
      simp [readTagChar, named.1]
    rw [List.cons_append, readTagFrom_cons (by decide), step,
      inductionHypothesis (by simpa using named.2), List.append_assoc, List.singleton_append]

/-- Behind its name a tag is read as between attributes. -/
theorem readTagFrom_behind_tagName (tag : StartTag) (attributes : List (Text × Text))
    (rest : Text) :
    readTagFrom tag .tagName (writeAttributes attributes ++ '>' :: rest) =
      readTagFrom tag .gap (writeAttributes attributes ++ '>' :: rest) := by
  cases attributes <;> rfl

/-- A tag is read as it was written exactly if no value holds a quote. -/
theorem PlainTag.isReadBack_iff {tag : PlainTag} (named : tag.IsNamed) :
    tag.IsReadBack ↔ tag.IsQuoteFree := by
  obtain ⟨name, attributes⟩ := tag
  obtain ⟨⟨first, inHead, letter⟩, isName, others⟩ := named
  obtain ⟨tail, rfl⟩ := List.head?_eq_some_iff.mp (Option.mem_def.mp inHead)
  have reading (rest : Text) : readTag? ((PlainTag.mk (first :: tail) attributes).write ++ rest) =
      readTagFrom ⟨first :: tail, [], false⟩ .gap (writeAttributes attributes ++ '>' :: rest) := by
    have spelled : (PlainTag.mk (first :: tail) attributes).write ++ rest =
        '<' :: first :: (tail ++ (writeAttributes attributes ++ '>' :: rest)) := by
      simp [PlainTag.write]
    have tailName : tail.all (fun c => !endsName c) = true := by
      rw [List.all_cons, Bool.and_eq_true] at isName
      exact isName.2
    rw [spelled, readTag?, if_pos letter, readTagFrom_tagName tailName, readTagFrom_behind_tagName]
    rfl
  have whole := fun rest =>
    readTagFrom_writeAttributes_iff (List.forall_mem_map.mp others) ⟨first :: tail, [], false⟩ rest
  constructor
  · intro reads
    exact (whole []).mp ((reading []).symm.trans (reads []))
  · intro free rest
    exact (reading rest).trans ((whole rest).mpr free)

end Html

end BookMarkup
