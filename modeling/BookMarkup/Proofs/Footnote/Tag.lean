/-
This file lists the tags that the marks and the notes of footnotes are written with. A
mark and a note are superscripts that hold a link: the superscript has the identifier that
the other side points at, and the link points at the identifier of the other side. Two
footnotes link to each other if each of them has the target of the other.
-/

import BookMarkup.Footnote
import BookMarkup.Proofs.Html.WrittenTag

namespace BookMarkup

namespace Hook

open Html

/-- How several tags in a row are written. -/
def writeTags (tags : List PlainTag) : Text :=
  tags.flatMap PlainTag.write

/-- The tags of a superscript with a label that has a target and links to another one. -/
def superscriptTags (role label own other : Text) : List PlainTag :=
  [⟨"sup".toList, [("class".toList, role), ("data-number".toList, label), ("id".toList, own)]⟩,
    ⟨"a".toList, [("href".toList, '#' :: other)]⟩]

/-- The tags of the mark of a label. -/
def markTags (label : Text) : List PlainTag :=
  superscriptTags "footnote-mark".toList label (Footnote.markId label) (Footnote.noteId label)

/-- The tags of the note of a label. -/
def noteTags (label : Text) : List PlainTag :=
  superscriptTags "footnote-text".toList label (Footnote.noteId label) (Footnote.markId label)

theorem superscript_eq (role label own other : Text) :
    Footnote.superscript role label own other =
      writeTags (superscriptTags role label own other) ++ (label ++ "</a></sup>".toList) := by
  unfold Footnote.superscript
  simp only [writeTags, superscriptTags, List.flatMap_cons, List.flatMap_nil, PlainTag.write,
    writeAttributes, writeAttribute, List.append_assoc, List.cons_append, List.nil_append]
  rfl

theorem renderMark_eq (label : Text) :
    Footnote.renderMark label = writeTags (markTags label) ++ (label ++ "</a></sup>".toList) :=
  superscript_eq _ _ _ _

theorem renderNote_eq (label body : Text) :
    Footnote.renderNote label body =
      writeTags (noteTags label) ++ (label ++ ("</a></sup>".toList ++ body)) := by
  rw [Footnote.renderNote, superscript_eq]
  simp only [List.append_assoc]
  rfl

/-! ### Links between tags -/

/-- The value of the first attribute of a name in some tags. -/
def attribute? (name : Text) (tags : List PlainTag) : Option Text :=
  (tags.flatMap PlainTag.attributes).lookup name

/-- Whether the link in some tags points at the identifier in others. -/
def PointsAt (tags others : List PlainTag) : Prop :=
  ∃ target, attribute? "href".toList tags = some ('#' :: target) ∧
    attribute? "id".toList others = some target

/-- Whether two footnotes link to each other. -/
def AreLinked (mark note : List PlainTag) : Prop :=
  PointsAt mark note ∧ PointsAt note mark

/-- A mark and a note link to each other exactly if they are written with the same label. -/
theorem areLinked_iff (mark note : Text) :
    AreLinked (markTags mark) (noteTags note) ↔ mark = note := by
  have pointsForth : PointsAt (markTags mark) (noteTags note) ↔
      Footnote.noteId mark = Footnote.noteId note :=
    ⟨fun ⟨target, link, own⟩ => (List.cons.inj (Option.some.inj link)).2.trans
        (Option.some.inj own).symm,
      fun equal => ⟨Footnote.noteId mark, rfl, congrArg some equal.symm⟩⟩
  have pointsBack : PointsAt (noteTags note) (markTags mark) ↔
      Footnote.markId note = Footnote.markId mark :=
    ⟨fun ⟨target, link, own⟩ => (List.cons.inj (Option.some.inj link)).2.trans
        (Option.some.inj own).symm,
      fun equal => ⟨Footnote.markId note, rfl, congrArg some equal.symm⟩⟩
  rw [AreLinked, pointsForth, pointsBack]
  exact ⟨fun linked => List.append_cancel_left linked.1, fun equal => equal ▸ ⟨rfl, rfl⟩⟩

end Hook

end BookMarkup
