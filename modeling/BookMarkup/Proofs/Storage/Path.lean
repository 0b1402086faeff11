/-
This file proves what a path is that is written behind a directory. The slash between the
two ends the last component of the directory, and a path without a slash in front adds none
to those at the root. So the path has the root of the directory, and its components follow
those of the directory.
-/

import BookMarkup.Proofs.Text.Line
import BookMarkup.Storage.Path
import Mathlib.Data.List.Infix
import Mathlib.Data.List.TakeWhile

namespace BookMarkup

namespace Path

/-! ### Components -/

/-- The components are the parts between slashes that are neither empty nor a single dot. -/
theorem componentsOf_eq_splitOn (text : Text) :
    componentsOf text = (text.splitOn '/').filter fun part => part ≠ [] ∧ part ≠ ['.'] := by
  rw [componentsOf, Text.parts_eq_splitOnP, List.splitOn_eq_splitOnP]
  refine List.filter_congr fun part _ => ?_
  rw [Bool.eq_iff_iff]
  simp

theorem componentsOf_append_slash (front rest : Text) :
    componentsOf (front ++ '/' :: rest) = componentsOf front ++ componentsOf rest := by
  rw [componentsOf, Text.parts_append_separator, List.filter_append]
  rfl

/-! ### Joined paths -/

/-- A run of characters at the front of a text ends in this text, unless it may go on behind it. -/
theorem takeWhile_append_of_stopped {holds : Char → Bool} {front rest : Text}
    (stopped : (∃ c ∈ front, holds c = false) ∨ rest.takeWhile holds = []) :
    (front ++ rest).takeWhile holds = front.takeWhile holds := by
  rw [List.takeWhile_append]
  split
  · next whole =>
    have all : front.takeWhile holds = front := (List.takeWhile_prefix holds).eq_of_length whole
    rcases stopped with ⟨c, member, stops⟩ | nothing
    · rw [← all] at member
      rw [List.mem_takeWhile_imp member] at stops
      cases stops
    · rw [nothing, all, List.append_nil]
  · rfl

section

variable {directory path : Text} (some' : directory ≠ []) (relative : path.head? ≠ some '/')

include some' relative in
theorem joinText_of_relative : joinText directory path =
    if directory.getLast? = some '/' then directory ++ path else directory ++ '/' :: path := by
  have joins : (path.head? = some '/' || directory.isEmpty) = false := by simp [some', relative]
  rw [joinText, joins, if_neg Bool.false_ne_true, List.append_assoc]
  rfl

include some' relative in
theorem componentsOf_joinText :
    componentsOf (joinText directory path) = componentsOf directory ++ componentsOf path := by
  rw [joinText_of_relative some' relative]
  split
  · next ends =>
    obtain ⟨front, rfl⟩ := List.getLast?_eq_some_iff.mp ends
    have closed := componentsOf_append_slash front []
    rw [List.append_assoc, List.singleton_append, componentsOf_append_slash, closed,
      List.append_assoc]
    rfl
  · exact componentsOf_append_slash directory path

include some' relative in
theorem rootSlashesOf_joinText :
    rootSlashesOf (joinText directory path) = rootSlashesOf directory := by
  have noSlash : path.takeWhile (· == '/') = [] := by
    cases path with
    | nil => rfl
    | cons first rest => exact List.takeWhile_cons_of_neg (by simpa using relative)
  have root : (joinText directory path).takeWhile (· == '/') = directory.takeWhile (· == '/') := by
    rw [joinText_of_relative some' relative]
    split
    · exact takeWhile_append_of_stopped (Or.inr noSlash)
    · next other =>
      rw [List.getLast?_eq_some_getLast some'] at other
      refine takeWhile_append_of_stopped
        (Or.inl ⟨directory.getLast some', List.getLast_mem some', ?_⟩)
      exact beq_eq_false_iff_ne.mpr fun slash => other (congrArg some slash)
  rw [rootSlashesOf, root]
  rfl

include some' relative in
theorem ofText_joinText :
    ofText (joinText directory path) =
      ⟨(ofText directory).rootSlashes,
        (ofText directory).components ++ (ofText path).components⟩ := by
  rw [ofText, componentsOf_joinText some' relative, rootSlashesOf_joinText some' relative]
  rfl

end

end Path

end BookMarkup
