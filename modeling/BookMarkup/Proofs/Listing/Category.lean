/-
This file proves that the most special entry of the table decides about the category of a token
kind. The entries that a kind belongs to are starts of its path, so of two such entries one
starts the other, and the longer one is the more special. An entry hides those behind it whose
paths go on from its own. The table has no entry that hides another one, so the first entry
that a kind belongs to is the longest, whatever the kind and however long its path.
-/

import BookMarkup.Listing.Token
import Mathlib.Data.List.Infix

namespace BookMarkup

namespace Listing

/-! ### Entries of a table -/

/-- Whether an entry is the longest one in a table that a kind belongs to. -/
structure IsLongestEntry (table : List (TokenKind × Text)) (kind : TokenKind)
    (entry : TokenKind × Text) : Prop where
  /-- The entry is in the table. -/
  listed : entry ∈ table
  /-- The kind belongs to it. -/
  above : entry.1 <+: kind
  /-- No entry that the kind belongs to is longer. -/
  longest : ∀ other ∈ table, other.1 <+: kind → other.1.length ≤ entry.1.length

/-- Whether a table lists special kinds first, so that no entry hides one behind it. -/
def IsSpecialFirst (table : List (TokenKind × Text)) : Prop :=
  table.Pairwise fun first second => ¬ first.1 <+: second.1

section

variable {first entry : TokenKind × Text} {others : List (TokenKind × Text)} {kind : TokenKind}

/-- The first entry of a table is the longest one for a kind that belongs to it, unless it hides
another entry. -/
theorem isLongestEntry_cons_self (above : first.1 <+: kind)
    (hidesNone : ∀ other ∈ others, ¬ first.1 <+: other.1) :
    IsLongestEntry (first :: others) kind entry ↔ entry = first := by
  constructor
  · intro found
    refine (List.mem_cons.mp found.listed).resolve_right fun behind => hidesNone entry behind ?_
    exact List.prefix_of_prefix_length_le above found.above
      (found.longest first List.mem_cons_self above)
  · rintro rfl
    refine ⟨List.mem_cons_self, above, fun other member otherAbove => ?_⟩
    rcases List.mem_cons.mp member with rfl | behind
    · exact le_rfl
    · have starts := (List.prefix_or_prefix_of_prefix otherAbove above).resolve_right
        (hidesNone other behind)
      exact starts.length_le

/-- An entry that a kind does not belong to makes no difference. -/
theorem isLongestEntry_cons_of_not (apart : ¬ first.1 <+: kind) :
    IsLongestEntry (first :: others) kind entry ↔ IsLongestEntry others kind entry := by
  constructor
  · intro found
    refine ⟨(List.mem_cons.mp found.listed).resolve_left ?_, found.above, fun other member =>
      found.longest other (List.mem_cons_of_mem _ member)⟩
    rintro rfl
    exact apart found.above
  · intro found
    refine ⟨List.mem_cons_of_mem _ found.listed, found.above, fun other member otherAbove => ?_⟩
    rcases List.mem_cons.mp member with rfl | behind
    · exact absurd otherAbove apart
    · exact found.longest other behind otherAbove

end

/-! ### The first entry -/

section

variable {first : TokenKind × Text} {table : List (TokenKind × Text)} {kind : TokenKind}

theorem categoryIn_cons_self (above : first.1 <+: kind) :
    categoryIn (first :: table) kind = some first.2 := by
  have belongs : kind.belongsTo first.1 = true := List.isPrefixOf_iff_prefix.mpr above
  rw [categoryIn, List.find?_cons_of_pos]
  · rfl
  · exact belongs

theorem categoryIn_cons_of_not (apart : ¬ first.1 <+: kind) :
    categoryIn (first :: table) kind = categoryIn table kind := by
  have belongsNot : ¬ kind.belongsTo first.1 = true := mt List.isPrefixOf_iff_prefix.mp apart
  rw [categoryIn, List.find?_cons_of_neg]
  · rfl
  · exact belongsNot

/-- In a table with special kinds first, the longest entry decides. -/
theorem categoryIn_eq_some_iff (specialFirst : IsSpecialFirst table) {name : Text} :
    categoryIn table kind = some name ↔ ∃ path, IsLongestEntry table kind (path, name) := by
  induction table with
  | nil => exact ⟨fun found => (nomatch found), fun ⟨_, found⟩ => (nomatch found.listed)⟩
  | cons first others inductionHypothesis =>
    obtain ⟨hidesNone, specialBehind⟩ := List.pairwise_cons.mp specialFirst
    by_cases above : first.1 <+: kind
    · rw [categoryIn_cons_self above, Option.some.injEq]
      simp only [isLongestEntry_cons_self above hidesNone]
      exact ⟨fun named => ⟨first.1, named ▸ rfl⟩, fun ⟨_, equal⟩ => equal ▸ rfl⟩
    · rw [categoryIn_cons_of_not above, inductionHypothesis specialBehind]
      simp only [isLongestEntry_cons_of_not above]

/-- A kind has no category if it belongs to no entry. -/
theorem categoryIn_eq_none_iff :
    categoryIn table kind = none ↔ ∀ entry ∈ table, ¬ entry.1 <+: kind := by
  induction table with
  | nil => exact ⟨fun _ _ member => (nomatch member), fun _ => rfl⟩
  | cons first others inductionHypothesis =>
    rw [List.forall_mem_cons]
    by_cases above : first.1 <+: kind
    · rw [categoryIn_cons_self above]
      exact ⟨fun noCategory => (nomatch noCategory), fun apart => absurd above apart.1⟩
    · rw [categoryIn_cons_of_not above, inductionHypothesis]
      exact (and_iff_right above).symm

/-- Kinds that belong to the same entries have the same category. -/
theorem categoryIn_congr {other : TokenKind}
    (alike : ∀ entry ∈ table, entry.1 <+: kind ↔ entry.1 <+: other) :
    categoryIn table kind = categoryIn table other := by
  induction table with
  | nil => rfl
  | cons first others inductionHypothesis =>
    obtain ⟨here, behind⟩ := List.forall_mem_cons.mp alike
    by_cases above : first.1 <+: kind
    · rw [categoryIn_cons_self above, categoryIn_cons_self (here.mp above)]
    · rw [categoryIn_cons_of_not above, categoryIn_cons_of_not (mt here.mpr above),
        inductionHypothesis behind]

end

/-! ### Categories -/

theorem isSpecialFirst_categoryTable : IsSpecialFirst categoryTable := by
  unfold IsSpecialFirst
  decide

/-- The most special entry of the table decides about the category of a kind. A kind has the
category of the longest entry that it belongs to, and it has none exactly if it belongs to no
entry. So it inherits the category of a kind above it, unless an entry lies between the two or is
the lower one itself. -/
theorem category_is_that_of_longest_entry (kind : TokenKind) :
    (∀ name, category kind = some name ↔
        ∃ path, IsLongestEntry categoryTable kind (path, name)) ∧
      (category kind = none ↔ ∀ entry ∈ categoryTable, ¬ entry.1 <+: kind) ∧
      ∀ parent, parent <+: kind →
        (∀ entry ∈ categoryTable, parent <+: entry.1 → entry.1 <+: kind → entry.1 = parent) →
        category kind = category parent := by
  refine ⟨fun name => categoryIn_eq_some_iff isSpecialFirst_categoryTable, categoryIn_eq_none_iff,
    fun parent above noneBetween => categoryIn_congr fun entry member => ⟨fun entryAbove => ?_,
      fun entryAbove => entryAbove.trans above⟩⟩
  rcases List.prefix_or_prefix_of_prefix entryAbove above with starts | goesOn
  · exact starts
  · rw [noneBetween entry member goesOn entryAbove]

/-- A kind below the pseudo builtins inherits their category, and not that of the builtins above
them. -/
theorem category_below_pseudo_builtin :
    let builtin : TokenKind := ["Name".toList, "Builtin".toList]
    let pseudo : TokenKind := builtin ++ ["Pseudo".toList]
    let kind : TokenKind := pseudo ++ ["Receiver".toList]
    pseudo <+: kind ∧
      (∀ entry ∈ categoryTable, pseudo <+: entry.1 → entry.1 <+: kind → entry.1 = pseudo) ∧
      category kind = category pseudo ∧ category kind = some "variable".toList ∧
      category (builtin ++ ["Receiver".toList]) = some "built_in".toList := by
  intro builtin pseudo kind
  have below : pseudo <+: kind := List.prefix_append _ _
  have noneBetween :
      ∀ entry ∈ categoryTable, pseudo <+: entry.1 → entry.1 <+: kind → entry.1 = pseudo := by decide
  have inherited := (category_is_that_of_longest_entry kind).2.2 pseudo below noneBetween
  exact ⟨below, noneBetween, inherited, inherited.trans (by decide), by decide⟩

end Listing

end BookMarkup
