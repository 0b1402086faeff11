/-
This file reads the paragraph tags off some markup and says when they are balanced: there
are as many start tags as end tags, and no part of the markup from its start on holds more
end tags. That is so exactly if a walk over the tags that steps up and down never goes
below the ground and ends there. Neither tag can be completed where markup meets a `<`, or
behind a `>`, so the tags of markup are those of its parts.
-/

import BookMarkup.Proofs.Group.Quote

namespace BookMarkup

namespace Quote

open BookMarkup.Group

/-! ### Tags -/

/-- A tag of a paragraph. -/
inductive ParagraphTag where
  /-- The start tag. -/
  | start
  /-- The end tag. -/
  | stop
  deriving DecidableEq, Repr

namespace ParagraphTag

/-- The markup of a paragraph tag. -/
def html : ParagraphTag → Text
  | .start => "<p>".toList
  | .stop => "</p>".toList

theorem html_ne_nil (tag : ParagraphTag) : tag.html ≠ [] := by
  cases tag <;> decide

/-- A tag stands between brackets and holds no other ones. -/
theorem html_spells (tag : ParagraphTag) :
    ∃ name, tag.html = '<' :: (name ++ ['>']) ∧ '<' ∉ name ∧ '>' ∉ name := by
  cases tag with
  | start => exact ⟨['p'], by decide, by decide, by decide⟩
  | stop => exact ⟨['/', 'p'], by decide, by decide, by decide⟩

theorem isBlockTag (tag : ParagraphTag) : IsBlockTag tag.html := by
  cases tag with
  | start => exact ⟨'p', _, Or.inr rfl, Or.inl rfl⟩
  | stop => exact ⟨'p', _, Or.inr rfl, Or.inr rfl⟩

theorem html_prefix_iff {first second : ParagraphTag} {text : Text} (starts : first.html <+: text) :
    second.html <+: text ↔ second = first := by
  constructor
  · intro other
    obtain ⟨behind, rfl⟩ := starts
    cases first <;> cases second <;> first
      | rfl
      | exact absurd (List.cons_prefix_cons.mp (List.cons_prefix_cons.mp other).2).1 (by decide)
  · rintro rfl
    exact starts

end ParagraphTag

/-- What paragraph tags look like. -/
def tagNeedles : List (Text × ParagraphTag) :=
  [(ParagraphTag.start.html, .start), (ParagraphTag.stop.html, .stop)]

/-- The paragraph tags in some markup, from left to right. -/
def tags (html : Text) : List ParagraphTag :=
  Text.signs tagNeedles html

theorem forall_mem_tagNeedles {property : Text × ParagraphTag → Prop}
    (each : ∀ tag : ParagraphTag, property (tag.html, tag)) :
    ∀ needle ∈ tagNeedles, property needle := by
  intro needle member
  rcases List.mem_cons.mp member with rfl | member
  · exact each .start
  · rw [List.mem_singleton.mp member]
    exact each .stop

theorem signAt?_tag {text : Text} (tag : ParagraphTag) :
    Text.signAt? tagNeedles text = some tag ↔ tag.html <+: text := by
  have first : Text.signAt? tagNeedles text = if ParagraphTag.start.html.isPrefixOf text then
      some .start else if ParagraphTag.stop.html.isPrefixOf text then some .stop else none := rfl
  rw [first]
  simp only [List.isPrefixOf_iff_prefix]
  split_ifs with starts stops
  · rw [ParagraphTag.html_prefix_iff starts, Option.some.injEq, eq_comm]
  · rw [ParagraphTag.html_prefix_iff stops, Option.some.injEq, eq_comm]
  · cases tag with
    | start => exact iff_of_false id starts
    | stop => exact iff_of_false id stops

/-! ### Where markup meets -/

theorem tags_append_of_head? {left right : Text}
    (starts : ∀ first ∈ right.head?, first = '<' ∨ first = '\n') :
    tags (left ++ right) = tags left ++ tags right := by
  refine Text.signs_append (forall_mem_tagNeedles fun tag => Or.inr fun first inHead => ?_)
  rcases starts first inHead with rfl | rfl <;> cases tag <;> decide

theorem tags_append_of_getLast? {left : Text} (ends : left.getLast? = some '>') (right : Text) :
    tags (left ++ right) = tags left ++ tags right := by
  refine Text.signs_append (forall_mem_tagNeedles fun tag => Or.inl fun last inLast => ?_)
  rw [ends] at inLast
  cases inLast
  cases tag <;> decide

/-- Text without the end of a tag completes none. -/
theorem tags_append_of_open (text : Text) {behind : Text} (noEnd : '>' ∉ behind) :
    tags (text ++ behind) = tags text := by
  refine Text.signs_append_of_lasts fun c member => forall_mem_tagNeedles fun tag => ?_
  obtain ⟨name, spelled, -, -⟩ := tag.html_spells
  refine ⟨'<' :: name, '>', spelled, ?_⟩
  rintro rfl
  exact noEnd member

/-- Text without the start of a tag starts none. -/
theorem tags_plain_append {front : Text} (plain : '<' ∉ front) (rest : Text) :
    tags (front ++ rest) = tags rest := by
  refine Text.signs_append_of_heads (fun c member => forall_mem_tagNeedles fun tag => ?_) rest
  obtain ⟨name, spelled, -, -⟩ := tag.html_spells
  refine ⟨'<', name ++ ['>'], spelled, ?_⟩
  rintro rfl
  exact plain member

theorem tags_plain {text : Text} (plain : '<' ∉ text) : tags text = [] := by
  have whole := tags_plain_append plain []
  rwa [List.append_nil] at whole

theorem mem_tags_iff {tag : ParagraphTag} {text : Text} : tag ∈ tags text ↔ tag.html <:+: text := by
  induction text with
  | nil =>
    refine iff_of_false List.not_mem_nil fun inside => ?_
    exact tag.html_ne_nil (List.infix_nil.mp inside)
  | cons head rest inductionHypothesis =>
    have here : tags (head :: rest) =
        (Text.signAt? tagNeedles (head :: rest)).toList ++ tags rest := rfl
    rw [here, List.mem_append, Option.mem_toList, signAt?_tag, inductionHypothesis,
      List.infix_cons_iff]

theorem tags_eq_nil_iff {text : Text} :
    tags text = [] ↔ ∀ tag : ParagraphTag, ¬ tag.html <:+: text := by
  rw [List.eq_nil_iff_forall_not_mem]
  exact forall_congr' fun tag => not_congr mem_tags_iff

theorem tags_of_infix {part text : Text} (none : tags text = []) (inside : part <:+: text) :
    tags part = [] :=
  tags_eq_nil_iff.mpr fun tag within => tags_eq_nil_iff.mp none tag (within.trans inside)

theorem tags_of_isTame {text : Text} (tame : isTame text = true) : tags text = [] :=
  tags_eq_nil_iff.mpr fun tag => not_infix_of_isTame tag.isBlockTag tame

/-! ### Tags in a part of some markup -/

/-- A further character completes a tag or adds none. -/
theorem tags_concat (text : Text) (last : Char) :
    tags (text ++ [last]) = tags text ∨ ∃ tag, tags (text ++ [last]) = tags text ++ [tag] := by
  by_cases ends : ∃ tag : ParagraphTag, tag.html <:+ text ++ [last]
  · obtain ⟨tag, before, whole⟩ := ends
    obtain ⟨name, spelled, -, noEnd⟩ := tag.html_spells
    have split : before ++ '<' :: name ++ ['>'] = text ++ [last] := by
      rw [← whole, spelled]
      simp only [List.append_assoc, List.cons_append]
    obtain ⟨rfl, -⟩ := List.append_inj' split rfl
    have open' : '>' ∉ '<' :: name := by
      rw [List.mem_cons, not_or]
      exact ⟨by decide, noEnd⟩
    have one : tags tag.html = [tag] := by cases tag <;> decide
    have starts : ∀ first ∈ tag.html.head?, first = '<' ∨ first = '\n' := by cases tag <;> decide
    refine Or.inr ⟨tag, ?_⟩
    rw [← whole, tags_append_of_head? starts, one, tags_append_of_open before open']
  · rw [not_exists] at ends
    exact Or.inl (Text.signs_concat_of_not_suffix (forall_mem_tagNeedles fun tag =>
      ⟨tag.html_ne_nil, ends tag⟩))

theorem tags_starts {front text : Text} (starts : front <+: text) : tags front <+: tags text := by
  obtain ⟨behind, rfl⟩ := starts
  induction behind using List.reverseRecOn with
  | nil => rw [List.append_nil]
  | append_singleton behind last inductionHypothesis =>
    rw [← List.append_assoc]
    rcases tags_concat (front ++ behind) last with same | ⟨tag, more⟩
    · rw [same]
      exact inductionHypothesis
    · rw [more]
      exact inductionHypothesis.trans (List.prefix_append _ _)

/-- The first tags of some markup are the tags of a part of it. -/
theorem exists_prefix_of_tags {first : List ParagraphTag} {text : Text}
    (starts : first <+: tags text) : ∃ front, front <+: text ∧ tags front = first := by
  induction text using List.reverseRecOn with
  | nil => exact ⟨[], List.prefix_refl [], (List.prefix_nil.mp starts).symm⟩
  | append_singleton text last inductionHypothesis =>
    have earlier (inside : first <+: tags text) :
        ∃ front, front <+: text ++ [last] ∧ tags front = first := by
      obtain ⟨front, isFront, same⟩ := inductionHypothesis inside
      exact ⟨front, isFront.trans (List.prefix_append _ _), same⟩
    rcases tags_concat text last with same | ⟨tag, more⟩
    · exact earlier (same ▸ starts)
    · rw [more] at starts
      rcases List.prefix_concat_iff.mp starts with rfl | inside
      · exact ⟨text ++ [last], List.prefix_refl _, more⟩
      · exact earlier inside

/-! ### Balance -/

/-- How often a needle occurs in a text. -/
def occurrences (needle text : Text) : Nat :=
  text.tails.countP (needle.isPrefixOf ·)

/-- Whether paragraph tags are balanced in some markup: start tags and end tags are equally many,
and no part of the markup from its start on holds more end tags. -/
structure IsBalanced (html : Text) : Prop where
  even : occurrences "<p>".toList html = occurrences "</p>".toList html
  nested : ∀ front, front <+: html →
    occurrences "</p>".toList front ≤ occurrences "<p>".toList front

theorem occurrences_tag (tag : ParagraphTag) (text : Text) :
    occurrences tag.html text = (tags text).count tag := by
  induction text with
  | nil => cases tag <;> decide
  | cons head rest inductionHypothesis =>
    have here : (if tag.html.isPrefixOf (head :: rest) then 1 else 0) =
        (Text.signAt? tagNeedles (head :: rest)).toList.count tag := by
      by_cases starts : tag.html <+: head :: rest
      · rw [(signAt?_tag tag).mpr starts, if_pos (List.isPrefixOf_iff_prefix.mpr starts),
          Option.toList_some, List.count_singleton_self]
      · have other : tag ∉ (Text.signAt? tagNeedles (head :: rest)).toList := by
          rw [Option.mem_toList]
          exact fun found => starts ((signAt?_tag tag).mp found)
        rw [if_neg (mt List.isPrefixOf_iff_prefix.mp starts), List.count_eq_zero_of_not_mem other]
    unfold occurrences at *
    rw [List.tails_cons, List.countP_cons, inductionHypothesis, here, Nat.add_comm]
    exact List.count_append.symm

/-- The height at which a walk over tags ends; none if it goes below the ground. -/
def walk : Nat → List ParagraphTag → Option Nat
  | height, [] => some height
  | height, .start :: rest => walk (height + 1) rest
  | height + 1, .stop :: rest => walk height rest
  | 0, .stop :: _ => none

theorem walk_append (height : Nat) (first second : List ParagraphTag) :
    walk height (first ++ second) =
      (walk height first).bind fun between => walk between second := by
  induction first generalizing height with
  | nil => rfl
  | cons tag rest inductionHypothesis =>
    cases tag with
    | start => exact inductionHypothesis (height + 1)
    | stop =>
      cases height with
      | zero => rfl
      | succ height => exact inductionHypothesis height

theorem forall_prefix_cons {property : List ParagraphTag → Prop} {tag : ParagraphTag}
    {rest : List ParagraphTag} : (∀ front, front <+: tag :: rest → property front) ↔
      property [] ∧ ∀ front, front <+: rest → property (tag :: front) := by
  constructor
  · intro each
    exact ⟨each [] List.nil_prefix, fun front starts =>
      each (tag :: front) (List.cons_prefix_cons.mpr ⟨rfl, starts⟩)⟩
  · rintro ⟨first, later⟩ front starts
    rcases List.prefix_cons_iff.mp starts with rfl | ⟨front, rfl, inside⟩
    · exact first
    · exact later front inside

theorem walk_eq_some_iff {height after : Nat} {read : List ParagraphTag} :
    walk height read = some after ↔
      height + read.count .start = after + read.count .stop ∧
        ∀ front, front <+: read → front.count .stop ≤ height + front.count .start := by
  induction read generalizing height with
  | nil => simp [walk, List.prefix_nil]
  | cons tag rest inductionHypothesis =>
    rw [forall_prefix_cons]
    cases tag with
    | start =>
      rw [walk, inductionHypothesis]
      simp only [List.count_nil, List.count_cons_self, List.count_cons_of_ne, ne_eq,
        reduceCtorEq, not_false_eq_true, Nat.zero_le, true_and, Nat.add_right_comm, ← Nat.add_assoc]
    | stop =>
      cases height with
      | zero =>
        refine iff_of_false (Option.some_ne_none after).symm fun both => ?_
        exact absurd (both.2.2 [] List.nil_prefix) (by decide)
      | succ height =>
        rw [walk, inductionHypothesis]
        simp only [List.count_nil, List.count_cons_self, List.count_cons_of_ne, ne_eq,
          reduceCtorEq, not_false_eq_true, Nat.zero_le, true_and]
        refine and_congr (by omega) (forall_congr' fun front => imp_congr Iff.rfl (by omega))

/-- Tags are balanced exactly if the walk over them ends on the ground. -/
theorem isBalanced_iff {html : Text} : IsBalanced html ↔ walk 0 (tags html) = some 0 := by
  have starts (part : Text) : occurrences "<p>".toList part = (tags part).count .start :=
    occurrences_tag .start part
  have stops (part : Text) : occurrences "</p>".toList part = (tags part).count .stop :=
    occurrences_tag .stop part
  rw [walk_eq_some_iff, Nat.zero_add, Nat.zero_add, ← starts, ← stops]
  constructor
  · rintro ⟨even, nested⟩
    refine ⟨even, fun first inside => ?_⟩
    obtain ⟨front, isFront, rfl⟩ := exists_prefix_of_tags inside
    rw [Nat.zero_add, ← starts, ← stops]
    exact nested front isFront
  · rintro ⟨even, nested⟩
    refine ⟨even, fun front isFront => ?_⟩
    have low := nested (tags front) (tags_starts isFront)
    rwa [Nat.zero_add, ← starts, ← stops] at low

end Quote

end BookMarkup
