/-
This file proves where a relative target leads from a base that names an authority. The
scheme of such a base ends at its first colon, its authority at the first slash behind the
two slashes, and its folder at its last slash. A target with two slashes in front keeps only
the scheme; every other one stays on the origin of the base, that is, behind its scheme, its
authority and a slash.
-/

import BookMarkup.Proofs.Text.Trim
import BookMarkup.Proofs.Url.Resolve

namespace BookMarkup

namespace Url

/-! ### Bases with an authority -/

/-- The parts of a base URL that names an authority. -/
structure Base where
  /-- What stands in front of the first colon. -/
  scheme : Text
  /-- What stands behind the two slashes: a host and all that goes with it, such as a port. -/
  authority : Text
  /-- All that stands behind the authority. -/
  path : Text
  scheme_ne_nil : scheme ≠ []
  colon_not_mem_scheme : ':' ∉ scheme
  authority_ne_nil : authority ≠ []
  slash_not_mem_authority : '/' ∉ authority
  path_starts : ∀ first ∈ path.head?, first = '/'

namespace Base

/-- The scheme and the authority. -/
def origin (base : Base) : Text :=
  base.scheme ++ "://".toList ++ base.authority

/-- The written form of a base. -/
def text (base : Base) : Text :=
  base.origin ++ base.path

/-- The path up to its last slash, or the slash that an empty path stands for. -/
def folder (base : Base) : Text :=
  if base.path = [] then ['/'] else Text.dropEndWhile (· != '/') base.path

end Base

/-! ### The last slash -/

/-- A URL up to its last slash is the URL without the characters at its end that are no slash. -/
theorem upToLastSlash_eq (url : Text) : upToLastSlash url = Text.dropEndWhile (· != '/') url := by
  have other {text : Text} (absent : ¬ ['/'] <:+: text) : ∀ c ∈ text, (c != '/') = true := by
    intro c member
    refine bne_iff_ne.mpr ?_
    rintro rfl
    exact absent ((List.singleton_infix_iff '/' text).mpr member)
  unfold upToLastSlash
  cases found : Text.breakOnLast ['/'] url with
  | none =>
    have absent := (Text.breakOnLast_eq_none_iff (List.cons_ne_nil _ _)).mp found
    exact (Text.dropEndWhile_append_of_all [] (other absent)).symm
  | some parts =>
    obtain ⟨before, behind⟩ := parts
    have absent := Text.not_infix_behind_of_breakOnLast (List.cons_ne_nil _ _) found
    rw [Text.breakOnLast_spells found, Text.dropEndWhile_append_of_all _ (other absent),
      Text.dropEndWhile_concat rfl]

/-- The last slash of a path is the last one of a URL that ends in this path. -/
theorem upToLastSlash_append {path : Text} (slash : '/' ∈ path) (front : Text) :
    upToLastSlash (front ++ path) = front ++ upToLastSlash path := by
  obtain ⟨before, behind, found⟩ := exists_breakOnLast_of_mem slash
  unfold upToLastSlash
  rw [found, Text.breakOnLast_append_of_some front found]
  exact List.append_assoc front before ['/']

/-! ### The first colon and the slashes behind it -/

theorem splitScheme?_append {scheme : Text} (named : scheme ≠ []) (absent : ':' ∉ scheme)
    (rest : Text) : splitScheme? (scheme ++ ':' :: rest) = some (scheme, rest) := by
  have broken : Text.breakOn [':'] (scheme ++ ':' :: rest) = some (scheme, rest) := by
    clear named
    induction scheme with
    | nil => exact Text.breakOn_append (List.cons_ne_nil _ _) rest
    | cons head tail inductionHypothesis =>
      rw [List.mem_cons, not_or] at absent
      rw [List.cons_append, breakOn_colon_cons (Ne.symm absent.1), inductionHypothesis absent.2]
      rfl
  rw [splitScheme?, broken]
  refine Option.filter_some_pos ?_
  simp [named]

namespace Base

variable (base : Base)

theorem origin_append (rest : Text) :
    base.origin ++ rest = base.scheme ++ ':' :: ('/' :: '/' :: (base.authority ++ rest)) := by
  simp [origin]

theorem splitScheme?_origin_append (rest : Text) :
    splitScheme? (base.origin ++ rest) =
      some (base.scheme, '/' :: '/' :: (base.authority ++ rest)) := by
  rw [origin_append]
  exact splitScheme?_append base.scheme_ne_nil base.colon_not_mem_scheme _

theorem not_slash_of_mem_authority : ∀ c ∈ base.authority, c ≠ '/' := by
  rintro c member rfl
  exact base.slash_not_mem_authority member

theorem exists_authority_eq_cons :
    ∃ first others, base.authority = first :: others ∧ first ≠ '/' := by
  obtain ⟨first, others, equal⟩ := List.exists_cons_of_ne_nil base.authority_ne_nil
  refine ⟨first, others, equal, base.not_slash_of_mem_authority first ?_⟩
  rw [equal]
  exact List.mem_cons_self

/-- The two slashes of a base are all slashes in front of its authority. -/
theorem behindSlashes_append (rest : Text) :
    behindSlashes ('/' :: '/' :: (base.authority ++ rest)) = base.authority ++ rest := by
  obtain ⟨first, others, equal, other⟩ := base.exists_authority_eq_cons
  rw [equal]
  simp [behindSlashes, other]

theorem takeWhile_slash_append (rest : Text) :
    ('/' :: '/' :: (base.authority ++ rest)).takeWhile (· == '/') = ['/', '/'] := by
  obtain ⟨first, others, equal, other⟩ := base.exists_authority_eq_cons
  rw [equal]
  simp [other]

/-- The authority ends at the first slash behind it. -/
theorem takeWhile_authority_append (rest : Text) :
    (base.authority ++ '/' :: rest).takeWhile (· != '/') = base.authority := by
  rw [List.takeWhile_append_of_pos fun c member =>
    bne_iff_ne.mpr (base.not_slash_of_mem_authority c member)]
  simp

theorem schemeOf_origin_append (rest : Text) :
    schemeOf (base.origin ++ rest) = base.scheme ++ [':'] := by
  rw [schemeOf, splitScheme?_origin_append]

theorem originOf_origin_append (rest : Text) :
    originOf (base.origin ++ '/' :: rest) = base.origin := by
  rw [originOf, splitScheme?_origin_append]
  simp only
  rw [takeWhile_slash_append, behindSlashes_append, takeWhile_authority_append]
  simp [origin]

theorem colon_mem_origin_append (rest : Text) : (base.origin ++ rest).contains ':' = true := by
  rw [origin_append]
  simp

/-! ### The directory of a base -/

theorem exists_path_eq_cons (some' : base.path ≠ []) : ∃ rest, base.path = '/' :: rest := by
  obtain ⟨first, rest, equal⟩ := List.exists_cons_of_ne_nil some'
  have starts : first = '/' := base.path_starts first (by rw [equal]; rfl)
  exact ⟨rest, by rw [equal, starts]⟩

theorem exists_folder_eq_cons : ∃ rest, base.folder = '/' :: rest := by
  unfold folder
  split
  · exact ⟨[], rfl⟩
  · next some' =>
    obtain ⟨rest, equal⟩ := base.exists_path_eq_cons some'
    obtain ⟨tail, others, whole⟩ := Text.exists_dropEndWhile_append (· != '/') base.path
    cases kept : Text.dropEndWhile (· != '/') base.path with
    | nil =>
      rw [kept, List.nil_append] at whole
      have isOther := others '/' (by rw [← whole, equal]; exact List.mem_cons_self)
      cases isOther
    | cons first others =>
      rw [kept, equal, List.cons_append] at whole
      exact ⟨others, by rw [(List.cons.inj whole).1]⟩

/-- A base stands for the folder on its origin. -/
theorem directoryOf_text : directoryOf base.text = base.origin ++ base.folder := by
  rw [text, directoryOf, splitScheme?_origin_append]
  simp only
  rw [behindSlashes_append, folder]
  by_cases empty : base.path = []
  · have noSlash : (base.authority ++ base.path).contains '/' = false := by
      simp [empty, base.slash_not_mem_authority]
    rw [if_neg (by rw [noSlash]; decide), if_pos empty, empty, List.append_nil]
  · obtain ⟨rest, equal⟩ := base.exists_path_eq_cons empty
    have slash : '/' ∈ base.path := by
      rw [equal]
      exact List.mem_cons_self
    have inside : (base.authority ++ base.path).contains '/' = true := by simp [slash]
    rw [if_pos inside, if_neg empty, upToLastSlash_append slash, upToLastSlash_eq]

end Base

/-! ### Resolved targets -/

theorem resolve_of_two_slashes (base : Base) (rest : Text) :
    resolve base.text ('/' :: '/' :: rest) = base.scheme ++ [':'] ++ '/' :: '/' :: rest := by
  simp only [resolve, base.directoryOf_text, base.colon_mem_origin_append, if_true,
    base.schemeOf_origin_append]

theorem resolve_of_one_slash (base : Base) {rest : Text} (single : ∀ c ∈ rest.head?, c ≠ '/') :
    resolve base.text ('/' :: rest) = base.origin ++ '/' :: rest := by
  obtain ⟨others, folder⟩ := base.exists_folder_eq_cons
  simp only [resolve, base.directoryOf_text, base.colon_mem_origin_append, if_true]
  rw [folder, base.originOf_origin_append]
  cases rest with
  | nil => rfl
  | cons second rest => simp [single second rfl]

theorem resolve_of_no_slash (base : Base) {target : Text} (bare : ∀ c ∈ target.head?, c ≠ '/') :
    resolve base.text target = base.origin ++ base.folder ++ target := by
  rw [← base.directoryOf_text]
  cases target with
  | nil => rfl
  | cons first rest => simp [resolve, bare first rfl]

theorem head?_ne_slash {text : Text} (absent : ¬ "/".toList <+: text) :
    ∀ c ∈ text.head?, c ≠ '/' := by
  rintro c inHead rfl
  obtain ⟨others, equal⟩ := List.head?_eq_some_iff.mp inHead
  exact absent ⟨others, by rw [equal]; rfl⟩

/-- A target with two slashes in front keeps the scheme of the base, one with a single slash keeps
its origin, and any other one its folder as well. So no target without two slashes in front leaves
the origin. -/
theorem relative_target_stays_on_origin (base : Base) (target : Text) :
    resolve base.text target =
        (if "//".toList <+: target then base.scheme ++ ":".toList ++ target
          else if "/".toList <+: target then base.origin ++ target
          else base.origin ++ base.folder ++ target) ∧
      (¬ "//".toList <+: target → base.origin ++ "/".toList <+: resolve base.text target) := by
  obtain ⟨others, folder⟩ := base.exists_folder_eq_cons
  by_cases double : "//".toList <+: target
  · rw [if_pos double]
    obtain ⟨rest, rfl⟩ := double
    exact ⟨resolve_of_two_slashes base rest, fun other => absurd (List.prefix_append _ _) other⟩
  · rw [if_neg double]
    by_cases slash : "/".toList <+: target
    · rw [if_pos slash]
      obtain ⟨rest, rfl⟩ := slash
      have single : ¬ "/".toList <+: rest := mt (List.prefix_append_right_inj ['/']).mpr double
      have resolved := resolve_of_one_slash base (head?_ne_slash single)
      exact ⟨resolved, fun _ => ⟨rest, by rw [List.append_assoc]; exact resolved.symm⟩⟩
    · rw [if_neg slash]
      have resolved := resolve_of_no_slash base (head?_ne_slash slash)
      refine ⟨resolved, fun _ => ?_⟩
      rw [resolved, folder, List.append_assoc]
      exact (List.prefix_append_right_inj base.origin).mpr ⟨others ++ target, rfl⟩

/-- A port belongs to the authority, and a query to the last part of the path. -/
theorem relative_targets_of_page_with_port :
    let page : Base :=
      ⟨"https".toList, "e.com:80".toList, "/a/b?c".toList, by decide, by decide, by decide,
        by decide, by decide⟩
    resolve page.text "d".toList = "https://e.com:80/a/d".toList ∧
      resolve page.text "/d".toList = "https://e.com:80/d".toList ∧
      resolve page.text "//x/d".toList = "https://x/d".toList := by
  intro page
  have resolved := relative_target_stays_on_origin page
  exact ⟨(resolved _).1, (resolved _).1, (resolved _).1⟩

end Url

end BookMarkup
