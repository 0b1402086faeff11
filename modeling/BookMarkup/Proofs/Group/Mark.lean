/-
This file reads the group markers off finished markup, and the ends of paragraphs, which
limit a citation. Most markup is tame: none of its tags can be taken for the start or the
end of a group or of a paragraph, whatever stands behind it, so it is passed over.
-/

import BookMarkup.Proofs.Text.Occurrence
import BookMarkup.Quote
import BookMarkup.RenderState
import Mathlib.Tactic.SplitIfs

namespace BookMarkup

namespace Group

/-! ### Markers and paragraph ends -/

/-- What group markers look like. -/
def needles : List (Text × GroupMarker) :=
  [(GroupMarker.opener.html, .opener), (GroupMarker.closer.html, .closer)]

/-- The group markers in some markup, from left to right. -/
def marks (html : Text) : List GroupMarker :=
  Text.signs needles html

/-- The end tag of a paragraph. -/
def stop : Text :=
  "</p>".toList

/-- Whether some markup ends a paragraph. -/
def hasStop (html : Text) : Bool :=
  Text.occursIn stop html

theorem stop_ne_nil : stop ≠ [] := by decide

theorem forall_mem_needles {property : Text × GroupMarker → Prop}
    (each : ∀ marker : GroupMarker, property (marker.html, marker)) :
    ∀ needle ∈ needles, property needle := by
  intro needle member
  rcases List.mem_cons.mp member with rfl | member
  · exact each .opener
  · rw [List.mem_singleton.mp member]
    exact each .closer

theorem marker_ne_nil (marker : GroupMarker) : marker.html ≠ [] := by
  cases marker <;> decide

theorem getLast?_marker (marker : GroupMarker) : marker.html.getLast? = some '>' := by
  cases marker <;> decide

theorem marks_markerHtml (marker : Option GroupMarker) :
    marks (markerHtml marker) = marker.toList := by
  cases marker with
  | none => rfl
  | some marker => cases marker <;> decide

/-! ### Where markup meets -/

/-- A text that starts, if at all, with a tag, perhaps behind a line end. -/
def StartsBlock (text : Text) : Prop :=
  text = [] ∨ text.head? = some '<' ∨ ∃ rest, text = '\n' :: '<' :: rest

/-- The first character of a text that starts a block. -/
theorem head?_of_startsBlock {text : Text} (starts : StartsBlock text) :
    ∀ first ∈ text.head?, first = '<' ∨ first = '\n' := by
  intro first inHead
  rcases starts with rfl | tag | ⟨rest, rfl⟩
  · cases inHead
  · rw [tag] at inHead
    exact Or.inl (Option.mem_some.mp inHead).symm
  · exact Or.inr (Option.mem_some.mp inHead).symm

theorem marks_append_of_head? {left right : Text}
    (starts : ∀ first ∈ right.head?, first = '<' ∨ first = '\n') :
    marks (left ++ right) = marks left ++ marks right := by
  refine Text.signs_append (forall_mem_needles fun marker => Or.inr fun first inHead => ?_)
  rcases starts first inHead with rfl | rfl <;> cases marker <;> decide

theorem marks_append_of_getLast? {left : Text} (ends : left.getLast? = some '>') (right : Text) :
    marks (left ++ right) = marks left ++ marks right := by
  refine Text.signs_append (forall_mem_needles fun marker => Or.inl fun last inLast => ?_)
  rw [ends] at inLast
  cases inLast
  cases marker <;> decide

/-- A tag or line without markers leaves no trace behind other text. -/
theorem marks_append_mute {right : Text}
    (starts : ∀ first ∈ right.head?, first = '<' ∨ first = '\n') (mute : marks right = [])
    (left : Text) : marks (left ++ right) = marks left := by
  rw [marks_append_of_head? starts, mute, List.append_nil]

/-- Nor does a tag without markers in front of it. -/
theorem marks_mute_append {left : Text} (ends : left.getLast? = some '>') (mute : marks left = [])
    (right : Text) : marks (left ++ right) = marks right := by
  rw [marks_append_of_getLast? ends, mute, List.nil_append]

/-- Text without the end of a tag completes no marker. -/
theorem marks_append_of_open (text : Text) {behind : Text} (noEnd : '>' ∉ behind) :
    marks (text ++ behind) = marks text := by
  refine Text.signs_append_of_lasts fun c member =>
    forall_mem_needles fun marker => ⟨marker.html.dropLast, '>', ?_, ?_⟩
  · cases marker <;> decide
  · rintro rfl
    exact noEnd member

/-- Text without the start of a tag starts no marker. -/
theorem marks_plain_append {front : Text} (plain : '<' ∉ front) (rest : Text) :
    marks (front ++ rest) = marks rest := by
  refine Text.signs_append_of_heads (fun c member =>
    forall_mem_needles fun marker => ⟨'<', marker.html.tail, ?_, ?_⟩) rest
  · cases marker <;> decide
  · rintro rfl
    exact plain member

theorem marks_plain {text : Text} (plain : '<' ∉ text) : marks text = [] := by
  have whole := marks_plain_append plain []
  rwa [List.append_nil] at whole

theorem marks_eq_nil_iff {text : Text} :
    marks text = [] ↔ ∀ marker : GroupMarker, ¬ marker.html <:+: text := by
  have nonempty : ∀ needle ∈ needles, needle.1 ≠ [] :=
    forall_mem_needles marker_ne_nil
  rw [marks, Text.signs_eq_nil_iff nonempty]
  refine ⟨fun absent marker => ?_, fun absent => forall_mem_needles absent⟩
  cases marker with
  | opener => exact absent (GroupMarker.opener.html, .opener) List.mem_cons_self
  | closer =>
    exact absent (GroupMarker.closer.html, .closer) (List.mem_cons_of_mem _ List.mem_cons_self)

theorem hasStop_eq_false_iff {text : Text} : hasStop text = false ↔ ¬ stop <:+: text := by
  rw [hasStop, ← Bool.not_eq_true, Text.occursIn_iff stop_ne_nil]

/-! ### Tame markup -/

/-- Whether the text behind a `<` makes it the start of another tag than those of groups and
paragraphs. -/
def startsOther : Text → Bool
  | [] => false
  | '/' :: rest => rest.head?.any fun second => second != 'd' && second != 'p'
  | first :: _ => first != 'd' && first != 'p'

/-- Whether no tag of a text can be one of a group or of a paragraph. -/
def isTame : Text → Bool
  | [] => true
  | head :: rest => (head != '<' || startsOther rest) && isTame rest

/-- A tag of a division or a paragraph. -/
def IsBlockTag (needle : Text) : Prop :=
  ∃ letter tail, (letter = 'd' ∨ letter = 'p') ∧
    (needle = '<' :: letter :: tail ∨ needle = '<' :: '/' :: letter :: tail)

theorem isBlockTag_marker (marker : GroupMarker) : IsBlockTag marker.html := by
  cases marker with
  | opener => exact ⟨'d', _, Or.inl rfl, Or.inl rfl⟩
  | closer => exact ⟨'d', _, Or.inl rfl, Or.inr rfl⟩

theorem isBlockTag_stop : IsBlockTag stop := ⟨'p', _, Or.inr rfl, Or.inr rfl⟩

theorem startsOther_append {rest : Text} (other : startsOther rest = true) (behind : Text) :
    startsOther (rest ++ behind) = true := by
  unfold startsOther at *
  split at other
  · cases other
  · next rest =>
    cases rest with
    | nil => cases other
    | cons second others => exact other
  · next first others noSlash =>
    simp only [List.cons_append]
    exact other

theorem isTame_append {left right : Text} (tameLeft : isTame left = true)
    (tameRight : isTame right = true) : isTame (left ++ right) = true := by
  induction left with
  | nil => exact tameRight
  | cons head rest inductionHypothesis =>
    rw [isTame, Bool.and_eq_true, Bool.or_eq_true] at tameLeft
    rw [List.cons_append, isTame, inductionHypothesis tameLeft.2, Bool.and_true, Bool.or_eq_true]
    exact tameLeft.1.imp_right fun other => startsOther_append other right

theorem isTame_of_plain {text : Text} (plain : '<' ∉ text) : isTame text = true := by
  induction text with
  | nil => rfl
  | cons head rest inductionHypothesis =>
    simp only [List.mem_cons, not_or] at plain
    rw [isTame, inductionHypothesis plain.2, bne_iff_ne.mpr (Ne.symm plain.1)]
    rfl

/-- No tag of a group or a paragraph starts in tame markup. -/
theorem not_prefix_of_isTame {needle : Text} (tag : IsBlockTag needle) {head : Char} {rest : Text}
    (tame : isTame (head :: rest) = true) (behind : Text) :
    ¬ needle <+: head :: (rest ++ behind) := by
  intro starts
  obtain ⟨letter, tail, letters, shape⟩ := tag
  rw [isTame, Bool.and_eq_true, Bool.or_eq_true] at tame
  rcases tame.1 with other | other
  · rw [bne_iff_ne] at other
    rcases shape with rfl | rfl <;> exact other (List.cons_prefix_cons.mp starts).1.symm
  · have whole := startsOther_append other behind
    rcases shape with rfl | rfl
    · obtain ⟨-, front⟩ := List.cons_prefix_cons.mp starts
      obtain ⟨others, equal⟩ := front
      rw [← equal] at whole
      rcases letters with rfl | rfl <;> cases whole
    · obtain ⟨-, front⟩ := List.cons_prefix_cons.mp starts
      obtain ⟨others, equal⟩ := front
      rw [← equal] at whole
      rcases letters with rfl | rfl <;> cases whole

theorem marks_tame_append {front : Text} (tame : isTame front = true) (rest : Text) :
    marks (front ++ rest) = marks rest := by
  induction front with
  | nil => rfl
  | cons head front inductionHypothesis =>
    have none : Text.signAt? needles (head :: (front ++ rest)) = none :=
      Text.signAt?_eq_none_iff.mpr (forall_mem_needles fun marker =>
        not_prefix_of_isTame (isBlockTag_marker marker) tame rest)
    rw [isTame, Bool.and_eq_true] at tame
    rw [List.cons_append, marks, Text.signs_cons_of_none none]
    exact inductionHypothesis tame.2

theorem breakOn_tame_append {needle : Text} (tag : IsBlockTag needle) {front : Text}
    (tame : isTame front = true) (rest : Text) :
    Text.breakOn needle (front ++ rest) =
      (Text.breakOn needle rest).map fun (before, behind) => (front ++ before, behind) := by
  induction front with
  | nil => simp
  | cons head front inductionHypothesis =>
    have absent := Text.after?_eq_none (not_prefix_of_isTame tag tame rest)
    rw [isTame, Bool.and_eq_true] at tame
    rw [List.cons_append, Text.breakOn, absent]
    simp only [inductionHypothesis tame.2, Option.map_map]
    rfl

theorem not_infix_of_isTame {needle : Text} (tag : IsBlockTag needle) {text : Text}
    (tame : isTame text = true) : ¬ needle <:+: text := by
  have nonempty : needle ≠ [] := by
    obtain ⟨letter, tail, -, rfl | rfl⟩ := tag <;> exact List.cons_ne_nil _ _
  have broken := breakOn_tame_append tag tame []
  rw [List.append_nil, Text.breakOn_nil nonempty] at broken
  exact (Text.breakOn_eq_none_iff nonempty).mp broken

theorem beforeParagraphEnd_tame_append {front : Text} (tame : isTame front = true) (rest : Text) :
    Quote.beforeParagraphEnd (front ++ rest) = front ++ Quote.beforeParagraphEnd rest := by
  have broken := breakOn_tame_append isBlockTag_stop tame rest
  unfold stop at broken
  unfold Quote.beforeParagraphEnd
  rw [broken]
  cases Text.breakOn "</p>".toList rest <;> rfl

/-! ### The part up to a paragraph end -/

theorem beforeParagraphEnd_of_hasStop {left : Text} (ends : hasStop left = true) (right : Text) :
    Quote.beforeParagraphEnd (left ++ right) = Quote.beforeParagraphEnd left := by
  obtain ⟨⟨before, behind⟩, found⟩ := Option.isSome_iff_exists.mp ends
  have later := Text.breakOn_append_of_some right found
  unfold stop at found later
  unfold Quote.beforeParagraphEnd
  rw [later, found]

theorem beforeParagraphEnd_of_not_hasStop {text : Text} (noEnd : hasStop text = false) :
    Quote.beforeParagraphEnd text = text := by
  rw [hasStop, Text.occursIn, Option.isSome_eq_false_iff, Option.isNone_iff_eq_none] at noEnd
  unfold stop at noEnd
  unfold Quote.beforeParagraphEnd
  rw [noEnd]

/-- Without a paragraph end in the first part, the second part decides. -/
theorem beforeParagraphEnd_append {left right : Text} (apart : Text.Apart stop left right)
    (noEnd : hasStop left = false) :
    Quote.beforeParagraphEnd (left ++ right) = left ++ Quote.beforeParagraphEnd right := by
  rw [hasStop, Text.occursIn, Option.isSome_eq_false_iff, Option.isNone_iff_eq_none] at noEnd
  have broken := Text.breakOn_append_of_none apart noEnd
  unfold stop at broken
  unfold Quote.beforeParagraphEnd
  rw [broken]
  cases Text.breakOn "</p>".toList right <;> rfl

/-- What stands in front of a paragraph end decides about the part up to it. -/
theorem beforeParagraphEnd_append_stop (front rest : Text) :
    Quote.beforeParagraphEnd (front ++ (stop ++ rest)) = Quote.beforeParagraphEnd front := by
  cases ends : hasStop front with
  | true => exact beforeParagraphEnd_of_hasStop ends _
  | false =>
    have apart : Text.Apart stop front (stop ++ rest) := by
      refine Or.inr fun first inHead => ?_
      have isFirst : first = '<' := (Option.some.inj inHead).symm
      rw [isFirst]
      decide
    have here : Quote.beforeParagraphEnd (stop ++ rest) = [] := by
      have found := Text.breakOn_append stop_ne_nil rest
      unfold stop at found ⊢
      unfold Quote.beforeParagraphEnd
      rw [found]
    rw [beforeParagraphEnd_append apart ends, here, List.append_nil,
      beforeParagraphEnd_of_not_hasStop ends]

theorem hasStop_append {left right : Text} (apart : Text.Apart stop left right) :
    hasStop (left ++ right) = (hasStop left || hasStop right) :=
  Text.occursIn_append apart

theorem beforeParagraphEnd_starts (text : Text) : Quote.beforeParagraphEnd text <+: text := by
  unfold Quote.beforeParagraphEnd
  split
  · next before behind found =>
    have whole := Text.breakOn_spells found
    exact ⟨"</p>".toList ++ behind, by rw [whole, List.append_assoc]⟩
  · exact List.prefix_refl text

theorem hasStop_plain {text : Text} (plain : '<' ∉ text) : hasStop text = false :=
  hasStop_eq_false_iff.mpr (not_infix_of_isTame isBlockTag_stop (isTame_of_plain plain))

theorem hasStop_append_stop (front rest : Text) : hasStop (front ++ (stop ++ rest)) = true :=
  (Text.occursIn_iff stop_ne_nil).mpr ⟨front, rest, List.append_assoc front stop rest⟩

/-- The part up to a paragraph end holds none. -/
theorem hasStop_beforeParagraphEnd (text : Text) :
    hasStop (Quote.beforeParagraphEnd text) = false := by
  unfold Quote.beforeParagraphEnd
  split
  · next before behind found =>
    exact hasStop_eq_false_iff.mpr (Text.not_infix_before_of_breakOn stop_ne_nil found)
  · next absent =>
    rw [hasStop, Text.occursIn, Option.isSome_eq_false_iff, Option.isNone_iff_eq_none]
    exact absent

end Group

end BookMarkup
