/-
This file proves that a run of text gains nothing but superscripts when it is rendered. The
escaped run is cut from left to right, in just one way, into the marks of footnotes and the
characters between them. The characters stay, and every mark becomes the superscript of its
label. Escaping has left no angle bracket, in a label or elsewhere, so the tags of the markup
are those of the superscripts, and without them a label stands in the place of its mark.
-/

import BookMarkup.Hook.Call
import BookMarkup.Proofs.Footnote.Leading
import BookMarkup.Proofs.Html.Tag

namespace BookMarkup

namespace Footnote

/-! ### Cutting a run of text -/

/-- How the mark of a label is typed. -/
def typedMark (label : Text) : Text :=
  "[^".toList ++ label ++ "]".toList

/-- Whether a label in brackets is a mark in front of some text: it is not empty, it holds no closing
bracket, and neither an opening parenthesis nor a colon follows. -/
structure IsMark (label behind : Text) : Prop where
  nonempty : label ≠ []
  closed : ']' ∉ label
  noLink : behind.head? ≠ some '('
  noNote : behind.head? ≠ some ':'

/-- A part of a run of text. -/
inductive Part where
  /-- A character at which no mark starts. -/
  | char (c : Char)
  /-- The mark of a label. -/
  | mark (label : Text)
  deriving DecidableEq, Repr

/-- Whether reading a text from left to right cuts it into some parts. A mark is cut off where one
starts, and reading goes on behind it; at every other place one character is cut off. -/
inductive IsCut : Text → List Part → Prop where
  | nil : IsCut [] []
  | mark {label behind : Text} {parts : List Part} (isMark : IsMark label behind)
    (later : IsCut behind parts) : IsCut (typedMark label ++ behind) (.mark label :: parts)
  | char {c : Char} {rest : Text} {parts : List Part}
    (noMark : ∀ label behind, IsMark label behind → c :: rest ≠ typedMark label ++ behind)
    (later : IsCut rest parts) : IsCut (c :: rest) (.char c :: parts)

namespace Part

/-- What a part shows. -/
def shown : Part → Text
  | char c => [c]
  | mark label => label

/-- The markup of a part. -/
def html : Part → Text
  | char c => [c]
  | mark label => renderMark label

/-- The tags of a part: those of its superscript, if it is a mark. -/
def tags : Part → List Text
  | char _ => []
  | mark label =>
    ["<sup class=\"footnote-mark\" data-number=\"".toList ++ label ++
        "\" id=\"footnote-reference:".toList ++ label ++ "\">".toList,
      "<a href=\"#footnote:".toList ++ label ++ "\">".toList, "</a>".toList, "</sup>".toList]

end Part

/-! ### The cut is the one that the scan makes -/

theorem typedMark_append (label behind : Text) :
    typedMark label ++ behind = bracket ++ (label ++ (']' :: behind)) := by
  unfold typedMark
  simp only [List.append_assoc]
  rfl

theorem typedMark_ne_nil (label : Text) : typedMark label ≠ [] := by simp [typedMark]

theorem markPattern_typedMark {label behind : Text} (isMark : IsMark label behind) :
    markPattern (typedMark label ++ behind) = (typedMark label).length :=
  markPattern_mark isMark.nonempty isMark.closed isMark.noLink isMark.noNote

/-- The pattern of a mark matches where a mark starts and nowhere else. -/
theorem markPattern_eq_zero_iff {text : Text} :
    markPattern text = 0 ↔
      ∀ label behind, IsMark label behind → text ≠ typedMark label ++ behind := by
  constructor
  · rintro noMatch label behind isMark rfl
    rw [markPattern_typedMark isMark] at noMatch
    exact typedMark_ne_nil label (List.length_eq_zero_iff.mp noMatch)
  · intro noMark
    rcases bracket_cases text with other | ⟨rest, rfl, unclosed⟩ | ⟨label, behind, closed, rfl⟩
    · exact markPattern_eq_zero other
    · exact markPattern_eq_zero_of_not_mem unclosed
    · rw [markPattern_label closed]
      by_contra isMark
      rw [not_or, not_or] at isMark
      exact noMark label behind ⟨isMark.1, closed, isMark.2.1, isMark.2.2⟩
        (typedMark_append label behind).symm

theorem fits_markPattern : Text.Fits markPattern := by
  intro text
  by_cases noMatch : markPattern text = 0
  · rw [noMatch]
    exact Nat.zero_le _
  · rw [markPattern_eq_zero_iff] at noMatch
    push Not at noMatch
    obtain ⟨label, behind, isMark, rfl⟩ := noMatch
    rw [markPattern_typedMark isMark, List.length_append]
    exact Nat.le_add_right _ _

/-- The part that a scanned piece of a text is. -/
def Part.ofPiece : Text.Piece → Part
  | .kept c => .char c
  | .found source => .mark (labelOf source)

/-- The parts of a text. -/
def partsOf (text : Text) : List Part :=
  (Text.pieces markPattern text).map Part.ofPiece

theorem partsOf_char {c : Char} {rest : Text} (noMatch : markPattern (c :: rest) = 0) :
    partsOf (c :: rest) = .char c :: partsOf rest := by
  unfold partsOf
  rw [Text.pieces_cons_of_zero noMatch]
  rfl

theorem partsOf_typedMark {label behind : Text} (isMark : IsMark label behind) :
    partsOf (typedMark label ++ behind) = .mark label :: partsOf behind := by
  unfold partsOf
  rw [Text.pieces_append_of_match (typedMark_ne_nil label) behind (markPattern_typedMark isMark),
    List.map_cons, Part.ofPiece]
  exact congrArg (fun name => Part.mark name :: _) (labelOf_mark label)

theorem isCut_partsOf (text : Text) : IsCut text (partsOf text) := by
  induction text using Text.scan_induction fits_markPattern with
  | nil => exact .nil
  | kept head rest noMatch inductionHypothesis =>
    rw [partsOf_char noMatch]
    exact .char (markPattern_eq_zero_iff.mp noMatch) inductionHypothesis
  | found front rest nonempty taken inductionHypothesis =>
    have isMatch : markPattern (front ++ rest) ≠ 0 := by
      rw [taken]
      exact mt List.length_eq_zero_iff.mp nonempty
    rw [ne_eq, markPattern_eq_zero_iff] at isMatch
    push Not at isMatch
    obtain ⟨label, behind, isMark, spelled⟩ := isMatch
    rw [spelled, markPattern_typedMark isMark] at taken
    obtain ⟨rfl, rfl⟩ := List.append_inj spelled taken.symm
    rw [partsOf_typedMark isMark]
    exact .mark isMark inductionHypothesis

/-- There is one way to cut a text. -/
theorem isCut_iff {text : Text} {parts : List Part} : IsCut text parts ↔ parts = partsOf text := by
  constructor
  · intro isCut
    induction isCut with
    | nil => rfl
    | mark isMark later inductionHypothesis =>
      rw [partsOf_typedMark isMark, inductionHypothesis]
    | char noMark later inductionHypothesis =>
      rw [partsOf_char (markPattern_eq_zero_iff.mpr noMark), inductionHypothesis]
  · rintro rfl
    exact isCut_partsOf text

/-! ### What is written for the parts -/

theorem interpolateMarks_eq_flatMap (text : Text) :
    interpolateMarks text = (partsOf text).flatMap Part.html := by
  unfold interpolateMarks Text.substitute partsOf
  rw [List.flatMap_map]
  refine List.flatMap_congr fun piece member => ?_
  cases piece <;> rfl

/-- What a part shows stands in the text that was cut. -/
theorem mem_of_mem_shown {text : Text} {parts : List Part} (isCut : IsCut text parts) :
    ∀ part ∈ parts, ∀ c ∈ part.shown, c ∈ text := by
  induction isCut with
  | nil => exact List.forall_mem_nil _
  | mark isMark later inductionHypothesis =>
    refine List.forall_mem_cons.mpr ⟨fun c inLabel => ?_, fun part member c inPart => ?_⟩
    · exact List.mem_append_left _ (List.mem_append_left _ (List.mem_append_right _ inLabel))
    · exact List.mem_append_right _ (inductionHypothesis part member c inPart)
  | char noMark later inductionHypothesis =>
    refine List.forall_mem_cons.mpr ⟨fun c inPart => ?_, fun part member c inPart => ?_⟩
    · rw [List.mem_singleton.mp inPart]
      exact List.mem_cons_self
    · exact List.mem_cons_of_mem _ (inductionHypothesis part member c inPart)

/-- Whether a part shows no angle bracket. -/
def Part.IsPlain (part : Part) : Prop :=
  '<' ∉ part.shown ∧ '>' ∉ part.shown

/-- The start tag of a superscript, without its brackets. -/
def markTag (label : Text) : Text :=
  "sup class=\"footnote-mark\" data-number=\"".toList ++ label ++
    "\" id=\"footnote-reference:".toList ++ label ++ ['"']

/-- The start tag of the link in a superscript, without its brackets. -/
def linkTag (label : Text) : Text :=
  "a href=\"#footnote:".toList ++ label ++ ['"']

/-- A superscript shows its label between two tags on either side. -/
theorem renderMark_append (label rest : Text) :
    renderMark label ++ rest =
      '<' :: (markTag label ++ '>' :: ('<' :: (linkTag label ++ '>' :: (label ++
        ('<' :: ("/a".toList ++ '>' :: ('<' :: ("/sup".toList ++ '>' :: rest)))))))) := by
  unfold renderMark superscript markTag linkTag markId noteId
  simp only [List.append_assoc]
  rfl

theorem markTag_ne_nil (label : Text) : markTag label ≠ [] :=
  List.append_ne_nil_of_right_ne_nil _ (List.cons_ne_nil _ _)

theorem linkTag_ne_nil (label : Text) : linkTag label ≠ [] :=
  List.append_ne_nil_of_right_ne_nil _ (List.cons_ne_nil _ _)

/-- The pieces that the markup of a part is scanned into. -/
def Part.pieces : Part → List Text.Piece
  | char c => [.kept c]
  | mark label =>
    [.found ('<' :: (markTag label ++ ['>'])), .found ('<' :: (linkTag label ++ ['>']))] ++
      (label.map .kept ++ [.found "</a>".toList, .found "</sup>".toList])

theorem greater_not_mem_markTag {label : Text} (noEnd : '>' ∉ label) : '>' ∉ markTag label := by
  have start : '>' ∉ "sup class=\"footnote-mark\" data-number=\"".toList := by decide
  have middle : '>' ∉ "\" id=\"footnote-reference:".toList := by decide
  have quote : '>' ∉ ['"'] := by decide
  unfold markTag
  simp only [List.mem_append, not_or]
  exact ⟨⟨⟨⟨start, noEnd⟩, middle⟩, noEnd⟩, quote⟩

theorem greater_not_mem_linkTag {label : Text} (noEnd : '>' ∉ label) : '>' ∉ linkTag label := by
  have start : '>' ∉ "a href=\"#footnote:".toList := by decide
  have quote : '>' ∉ ['"'] := by decide
  unfold linkTag
  simp only [List.mem_append, not_or]
  exact ⟨⟨start, noEnd⟩, quote⟩

/-- The markup of a part is scanned on its own, whatever stands behind it. -/
theorem pieces_html_append {part : Part} (plain : part.IsPlain) (rest : Text) :
    Text.pieces Html.tagPattern (part.html ++ rest) =
      part.pieces ++ Text.pieces Html.tagPattern rest := by
  have shown : ∀ c ∈ part.shown, c ≠ '<' := fun c member equal => plain.1 (equal ▸ member)
  cases part with
  | char c => exact Html.pieces_append_of_plain shown rest
  | mark label =>
    have noEnd : '>' ∉ label := plain.2
    have inLabel : ∀ c ∈ label, c ≠ '<' := shown
    have endLink : '>' ∉ "/a".toList := by decide
    have endMark : '>' ∉ "/sup".toList := by decide
    rw [Part.html, renderMark_append,
      Html.pieces_tag (markTag_ne_nil label) (greater_not_mem_markTag noEnd),
      Html.pieces_tag (linkTag_ne_nil label) (greater_not_mem_linkTag noEnd),
      Html.pieces_append_of_plain inLabel, Html.pieces_tag (by decide) endLink,
      Html.pieces_tag (by decide) endMark, Part.pieces, List.append_assoc, List.append_assoc]
    rfl

theorem pieces_flatMap_html {parts : List Part} (plain : ∀ part ∈ parts, part.IsPlain) :
    Text.pieces Html.tagPattern (parts.flatMap Part.html) = parts.flatMap Part.pieces := by
  induction parts with
  | nil => rfl
  | cons part others inductionHypothesis =>
    obtain ⟨here, later⟩ := List.forall_mem_cons.mp plain
    rw [List.flatMap_cons, List.flatMap_cons, pieces_html_append here, inductionHypothesis later]

theorem flatMap_tagOf_pieces (part : Part) : part.pieces.flatMap Html.tagOf = part.tags := by
  cases part with
  | char c => rfl
  | mark label =>
    have spelled : (Part.mark label).tags = ['<' :: (markTag label ++ ['>']),
        '<' :: (linkTag label ++ ['>']), "</a>".toList, "</sup>".toList] := by
      unfold Part.tags markTag linkTag
      simp only [List.append_assoc]
      rfl
    rw [Part.pieces, List.flatMap_append, List.flatMap_append, Html.flatMap_tagOf_kept, spelled]
    rfl

variable {parts : List Part}

/-- The tags of the markup of parts are the tags of the parts. -/
theorem tags_flatMap_html (plain : ∀ part ∈ parts, part.IsPlain) :
    Html.tags (parts.flatMap Part.html) = parts.flatMap Part.tags := by
  unfold Html.tags
  rw [pieces_flatMap_html plain, List.flatMap_assoc]
  exact List.flatMap_congr fun part _ => flatMap_tagOf_pieces part

/-- Without its tags the markup of parts is what they show. -/
theorem stripTags_flatMap_html (plain : ∀ part ∈ parts, part.IsPlain) :
    Html.stripTags (parts.flatMap Part.html) = parts.flatMap Part.shown := by
  unfold Html.stripTags Text.substitute
  rw [pieces_flatMap_html plain, List.flatMap_assoc]
  refine List.flatMap_congr fun part _ => ?_
  cases part with
  | char c => rfl
  | mark label =>
    rw [Part.pieces, List.flatMap_append, List.flatMap_append, List.flatMap_map]
    exact (List.append_nil _).trans (List.flatMap_singleton' label)

/-! ### Runs of text -/

/-- A run of text gains nothing but the superscripts of its marks. For every run and every state,
the escaped run with its last two words joined is cut in just one way, from left to right, into
marks and characters. The markup is that of the parts, in which characters stay and marks become
superscripts. All its tags, and all its angle brackets, belong to these superscripts, and without
the tags it is the run with each mark replaced by its label. -/
theorem text_gains_superscripts (setting : Setting) (state : RenderState) (source : Text) :
    ∃ (html : Text) (parts : List Part),
      ((Call.text source).run setting state).result = .ok html ∧
      (∀ others, IsCut (Text.joinLastWords (Html.escapeContent source)) others ↔ others = parts) ∧
      html = parts.flatMap Part.html ∧
      Html.tags html = parts.flatMap Part.tags ∧
      (∀ part ∈ parts, '<' ∉ part.shown ∧ '>' ∉ part.shown) ∧
      Html.stripTags html = parts.flatMap Part.shown := by
  have written : interpolateMarks (shownRun source) = (partsOf (shownRun source)).flatMap Part.html :=
    interpolateMarks_eq_flatMap _
  have plain : ∀ part ∈ partsOf (shownRun source), part.IsPlain := by
    intro part member
    have inRun := mem_of_mem_shown (isCut_partsOf (shownRun source)) part member
    exact ⟨fun less => absurd (not_reserved_of_mem_shownRun (inRun _ less)) (by decide),
      fun greater => absurd (not_reserved_of_mem_shownRun (inRun _ greater)) (by decide)⟩
  refine ⟨interpolateMarks (shownRun source), partsOf (shownRun source), rfl, fun others => isCut_iff,
    written, ?_, plain, ?_⟩
  · rw [written]
    exact tags_flatMap_html plain
  · rw [written]
    exact stripTags_flatMap_html plain

-- A bracket in a label is part of it, and a link is no mark.
example : partsOf "[^a[^b]-[^c](d)".toList = .mark "a[^b".toList :: "-[^c](d)".toList.map .char := by
  decide

end Footnote

end BookMarkup
