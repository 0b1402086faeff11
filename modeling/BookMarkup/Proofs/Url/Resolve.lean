/-
This file proves where a resolved target starts: at the first character of an absolute
base, or at a slash of the target itself.
-/

import BookMarkup.Proofs.Text.Occurrence
import BookMarkup.Url.Resolve

namespace BookMarkup

namespace Url

/-! ### Cutting a text behind its first character -/

theorem breakOn_colon_cons {head : Char} (other : head ≠ ':') (rest : Text) :
    Text.breakOn [':'] (head :: rest) =
      (Text.breakOn [':'] rest).map fun (before, behind) => (head :: before, behind) := by
  rw [Text.breakOn, Text.after?, Text.isPrefixOf_of_ne rfl other.symm]
  rfl

/-- The scheme of a URL starts where the URL starts. -/
theorem head?_of_splitScheme? {url scheme rest : Text}
    (parts : splitScheme? url = some (scheme, rest)) : scheme.head? = url.head? := by
  unfold splitScheme? at parts
  obtain ⟨broken, named⟩ := Option.filter_eq_some_iff.mp parts
  cases url with
  | nil => cases broken
  | cons head tail =>
    by_cases colon : head = ':'
    · subst colon
      cases broken
      cases named
    · rw [breakOn_colon_cons colon] at broken
      obtain ⟨⟨before, behind⟩, -, equal⟩ := Option.map_eq_some_iff.mp broken
      cases equal
      rfl

theorem exists_breakOnLast_of_mem {c : Char} {text : Text} (member : c ∈ text) :
    ∃ before behind, Text.breakOnLast [c] text = some (before, behind) := by
  induction text with
  | nil => cases member
  | cons head rest inductionHypothesis =>
    rw [Text.breakOnLast]
    cases last : Text.breakOnLast [c] rest with
    | some parts => exact ⟨head :: parts.1, parts.2, rfl⟩
    | none =>
      have here : c = head := by
        rcases List.mem_cons.mp member with equal | later
        · exact equal
        · obtain ⟨before, behind, found⟩ := inductionHypothesis later
          rw [last] at found
          cases found
      subst here
      refine ⟨[], rest, ?_⟩
      simp [Text.after?]

/-- A URL with a slash behind its first character keeps this character up to its last slash. -/
theorem head?_upToLastSlash {head : Char} {rest : Text} (slash : '/' ∈ rest) :
    (upToLastSlash (head :: rest)).head? = some head := by
  obtain ⟨before, behind, found⟩ := exists_breakOnLast_of_mem slash
  rw [upToLastSlash, Text.breakOnLast, found]
  rfl

/-! ### What a resolved target starts with -/

/-- The directory of an absolute base starts where the base starts. -/
theorem head?_directoryOf {head : Char} {rest : Text} (slash : '/' ∈ rest) :
    (directoryOf (head :: rest)).head? = some head := by
  unfold directoryOf
  split
  · split
    · exact head?_upToLastSlash slash
    · rfl
  · exact head?_upToLastSlash slash

theorem head?_schemeOf {url : Text} {head : Char} (starts : url.head? = some head) :
    (schemeOf url).head? = some head := by
  unfold schemeOf
  split
  · next scheme rest parts =>
    rw [List.head?_append, head?_of_splitScheme? parts, starts]
    rfl
  · exact starts

theorem head?_originOf {url : Text} {head : Char} (starts : url.head? = some head) :
    (originOf url).head? = some head := by
  unfold originOf
  split
  · next scheme rest parts =>
    simp only [List.append_assoc]
    rw [List.head?_append, head?_of_splitScheme? parts, starts]
    rfl
  · exact starts

/-- A target that is resolved against an absolute base starts with a slash or as the base does. -/
theorem head?_resolve {head : Char} {rest : Text} (slash : '/' ∈ rest) (target : Text) :
    (resolve (head :: rest) target).head? = some head ∨
      (resolve (head :: rest) target).head? = some '/' := by
  have directory : (directoryOf (head :: rest)).head? = some head := head?_directoryOf slash
  simp only [resolve]
  split
  · split
    · left
      rw [List.head?_append, head?_schemeOf directory]
      rfl
    · exact Or.inr rfl
  · split
    · left
      rw [List.head?_append, head?_originOf directory]
      rfl
    · exact Or.inr rfl
  · left
    rw [List.head?_append, directory]
    rfl

end Url

end BookMarkup
