/-
This file proves which identifier is read from the URL of a video: the one behind the last
marker on its first line. What stands in front of that marker does not matter, and neither
do markers in front of it. So the identifier that a link, a player or a page is named by is
found whatever parameters follow it, as long as no marker stands in them; if one does, the
text behind it is read in its place.
-/

import BookMarkup.Figure.Video
import BookMarkup.Proofs.Text.Occurrence

namespace BookMarkup

namespace Video

/-! ### Markers -/

/-- The texts that an identifier is looked for behind: the path of a short link, of a player, or of
a user's page, and the parameter of a watch page. -/
inductive IsMarker : Text → Prop where
  | shortLink : IsMarker "youtu.be/".toList
  | version : IsMarker "v/".toList
  | user {name : Char} (word : isWord name = true) : IsMarker ['u', '/', name, '/']
  | player : IsMarker "embed/".toList
  | page : IsMarker "watch?v=".toList

/-- Whether a marker is the last one in a text, with some text in front of it and some behind it: no
marker starts further on. -/
structure IsLastMarker (text front marker behind : Text) : Prop where
  spelled : text = front ++ (marker ++ behind)
  isMarker : IsMarker marker
  last : ∀ further other rest, IsMarker other → marker ++ behind = further ++ (other ++ rest) →
    further = []

theorem IsMarker.ne_nil {marker : Text} (isMarker : IsMarker marker) : marker ≠ [] := by
  cases isMarker <;> exact List.cons_ne_nil _ _

theorem lineEnd_not_mem_marker {marker : Text} (isMarker : IsMarker marker) : '\n' ∉ marker := by
  cases isMarker with
  | shortLink => decide
  | version => decide
  | player => decide
  | page => decide
  | @user name word =>
    have other : name ≠ '\n' := by
      rintro rfl
      exact absurd word (by decide)
    simp [Ne.symm other]

/-- The pattern takes a marker whole. -/
theorem markerPattern_append {marker : Text} (isMarker : IsMarker marker) (behind : Text) :
    markerPattern (marker ++ behind) = marker.length := by
  cases isMarker with
  | shortLink => rfl
  | version => rfl
  | player => rfl
  | page => rfl
  | user word => exact if_pos word

/-- The pattern matches only where a marker starts. -/
theorem exists_isMarker {text : Text} (isMatch : markerPattern text ≠ 0) :
    ∃ marker behind, IsMarker marker ∧ text = marker ++ behind := by
  have starts {front rest : Text} (found : front.isPrefixOf rest = true) :
      ∃ behind, rest = front ++ behind := by
    obtain ⟨behind, whole⟩ := List.isPrefixOf_iff_prefix.mp found
    exact ⟨behind, whole.symm⟩
  revert isMatch
  fun_cases markerPattern text with
  | case1 rest found =>
    obtain ⟨behind, rfl⟩ := starts found
    exact fun _ => ⟨_, behind, .shortLink, rfl⟩
  | case3 behind => exact fun _ => ⟨_, behind, .version, rfl⟩
  | case4 name behind word => exact fun _ => ⟨_, behind, .user word, rfl⟩
  | case6 rest found =>
    obtain ⟨behind, rfl⟩ := starts found
    exact fun _ => ⟨_, behind, .player, rfl⟩
  | case8 rest found =>
    obtain ⟨behind, rfl⟩ := starts found
    exact fun _ => ⟨_, behind, .page, rfl⟩
  | _ => exact fun isMatch => absurd rfl isMatch

/-! ### The last marker -/

/-- What is found further on counts, and else what stands behind a marker here. -/
theorem id?_cons {head : Char} (inLine : head ≠ '\n') (rest : Text) :
    id? (head :: rest) = (id? rest).or
      (if markerPattern (head :: rest) = 0 then none
        else some (((head :: rest).drop (markerPattern (head :: rest))).takeWhile isIdChar)) := by
  rw [id?, if_neg inLine]
  cases id? rest with
  | some found => rfl
  | none =>
    cases markerPattern (head :: rest) with
    | zero => rfl
    | succ taken => rfl

theorem id?_append_of_some {front rest found : Text} (oneLine : '\n' ∉ front)
    (later : id? rest = some found) : id? (front ++ rest) = some found := by
  induction front with
  | nil => exact later
  | cons head front inductionHypothesis =>
    simp only [List.mem_cons, not_or] at oneLine
    rw [List.cons_append, id?_cons (Ne.symm oneLine.1), inductionHypothesis oneLine.2]
    rfl

/-- Nothing is found in a line without a marker. -/
theorem id?_eq_none {text : Text} (oneLine : '\n' ∉ text)
    (absent : ∀ marker, IsMarker marker → ¬ marker <:+: text) : id? text = none := by
  induction text with
  | nil => rfl
  | cons head rest inductionHypothesis =>
    simp only [List.mem_cons, not_or] at oneLine
    have noMatch : markerPattern (head :: rest) = 0 := by
      by_contra isMatch
      obtain ⟨marker, behind, isMarker, spelled⟩ := exists_isMarker isMatch
      exact absent marker isMarker ⟨[], behind, spelled.symm⟩
    have later := inductionHypothesis oneLine.2 fun marker isMarker inside =>
      absent marker isMarker (inside.trans (List.suffix_cons head rest).isInfix)
    rw [id?_cons (Ne.symm oneLine.1), later, if_pos noMatch]
    rfl

/-- The identifier stands behind the last marker. -/
theorem id?_of_isLastMarker {text front marker behind : Text} (oneLine : '\n' ∉ text)
    (isLast : IsLastMarker text front marker behind) :
    id? text = some (behind.takeWhile isIdChar) := by
  obtain ⟨rfl, isMarker, last⟩ := isLast
  rw [List.mem_append, not_or] at oneLine
  refine id?_append_of_some oneLine.1 ?_
  have taken := markerPattern_append isMarker behind
  obtain ⟨head, tail, rfl⟩ := List.exists_cons_of_ne_nil isMarker.ne_nil
  have noMarker : id? (tail ++ behind) = none := by
    refine id?_eq_none (fun member => oneLine.2 (List.mem_cons_of_mem head member)) ?_
    rintro other isOther ⟨further, rest, spelled⟩
    refine List.cons_ne_nil head further (last (head :: further) other rest isOther ?_)
    rw [List.cons_append, List.cons_append, ← List.append_assoc, spelled]
  have inLine : head ≠ '\n' := by
    rintro rfl
    exact oneLine.2 List.mem_cons_self
  have some' : markerPattern (head :: (tail ++ behind)) ≠ 0 := by
    rw [← List.cons_append, taken]
    exact Nat.succ_ne_zero _
  rw [List.cons_append, id?_cons inLine, noMarker, if_neg some', ← List.cons_append, taken,
    List.drop_left]
  rfl

/-- A text with a marker has a last one. -/
theorem exists_isLastMarker {text : Text} (inside : ∃ marker, IsMarker marker ∧ marker <:+: text) :
    ∃ front marker behind, IsLastMarker text front marker behind := by
  induction text with
  | nil =>
    obtain ⟨marker, isMarker, inNil⟩ := inside
    exact absurd (List.infix_nil.mp inNil) isMarker.ne_nil
  | cons head rest inductionHypothesis =>
    by_cases later : ∃ marker, IsMarker marker ∧ marker <:+: rest
    · obtain ⟨front, marker, behind, spelled, isMarker, last⟩ := inductionHypothesis later
      exact ⟨head :: front, marker, behind, by rw [spelled]; rfl, isMarker, last⟩
    · obtain ⟨marker, isMarker, inText⟩ := inside
      obtain ⟨behind, starts⟩ := (List.infix_cons_iff.mp inText).resolve_right fun inRest =>
        later ⟨marker, isMarker, inRest⟩
      refine ⟨[], marker, behind, starts.symm, isMarker, fun further other more isOther spelled => ?_⟩
      cases further with
      | nil => rfl
      | cons first further =>
        rw [starts] at spelled
        refine absurd ⟨other, isOther, further, more, ?_⟩ later
        rw [List.append_assoc]
        exact (List.cons.inj spelled).2.symm

/-! ### The known shapes of a URL -/

/-- What stands in front of the identifier in the URL of a short link, of a player, of a version of
the player and of a watch page. -/
def shapes : List Text :=
  ["https://youtu.be/".toList, "https://www.youtube.com/embed/".toList,
    "https://www.youtube.com/v/".toList, "https://www.youtube.com/watch?v=".toList]

/-- A letter of an identifier. -/
def isIdLetter (c : Char) : Bool :=
  c.isAlphanum || c == '-' || c == '_'

theorem id?_cons_of_zero {head : Char} (inLine : head ≠ '\n') {rest : Text}
    (noMatch : markerPattern (head :: rest) = 0) : id? (head :: rest) = id? rest := by
  rw [id?_cons inLine, if_pos noMatch, Option.or_none]

/-- A marker in which no other one starts counts unless there is one further on. -/
theorem id?_marker_append {head : Char} {tail rest : Text} (isMarker : IsMarker (head :: tail))
    (quiet : id? (tail ++ rest) = id? rest) :
    id? (head :: tail ++ rest) = some ((id? rest).getD (rest.takeWhile isIdChar)) := by
  have inLine : head ≠ '\n' := by
    rintro rfl
    exact lineEnd_not_mem_marker isMarker List.mem_cons_self
  have taken := markerPattern_append isMarker rest
  have isMatch : markerPattern (head :: tail ++ rest) ≠ 0 := by
    rw [taken]
    exact Nat.succ_ne_zero _
  rw [List.cons_append] at taken isMatch ⊢
  rw [id?_cons inLine, if_neg isMatch, quiet, taken, ← List.cons_append, List.drop_left]
  cases id? rest <;> rfl

theorem id?_shortLink_append (rest : Text) :
    id? ("youtu.be/".toList ++ rest) = some ((id? rest).getD (rest.takeWhile isIdChar)) := by
  refine id?_marker_append .shortLink ?_
  show id? ('o' :: 'u' :: 't' :: 'u' :: '.' :: 'b' :: 'e' :: '/' :: rest) = id? rest
  iterate 8 rw [id?_cons_of_zero (by decide) (by rfl)]

theorem id?_version_append (rest : Text) :
    id? ("v/".toList ++ rest) = some ((id? rest).getD (rest.takeWhile isIdChar)) := by
  refine id?_marker_append .version ?_
  show id? ('/' :: rest) = id? rest
  rw [id?_cons_of_zero (by decide) (by rfl)]

theorem id?_player_append (rest : Text) :
    id? ("embed/".toList ++ rest) = some ((id? rest).getD (rest.takeWhile isIdChar)) := by
  refine id?_marker_append .player ?_
  show id? ('m' :: 'b' :: 'e' :: 'd' :: '/' :: rest) = id? rest
  iterate 5 rw [id?_cons_of_zero (by decide) (by rfl)]

theorem id?_page_append (rest : Text) :
    id? ("watch?v=".toList ++ rest) = some ((id? rest).getD (rest.takeWhile isIdChar)) := by
  refine id?_marker_append .page ?_
  show id? ('a' :: 't' :: 'c' :: 'h' :: '?' :: 'v' :: '=' :: rest) = id? rest
  iterate 7 rw [id?_cons_of_zero (by decide) (by rfl)]

/-- Behind a known shape the rest of the URL is read up to its first delimiter, unless there is a
marker in it. -/
theorem id?_shape_append {shape : Text} (isShape : shape ∈ shapes) (rest : Text) :
    id? (shape ++ rest) = some ((id? rest).getD (rest.takeWhile isIdChar)) := by
  have shortLink : "https://youtu.be/".toList = "https://".toList ++ "youtu.be/".toList := by decide
  have player : "https://www.youtube.com/embed/".toList =
      "https://www.youtube.com/".toList ++ "embed/".toList := by decide
  have version : "https://www.youtube.com/v/".toList =
      "https://www.youtube.com/".toList ++ "v/".toList := by decide
  have page : "https://www.youtube.com/watch?v=".toList =
      "https://www.youtube.com/".toList ++ "watch?v=".toList := by decide
  simp only [shapes, List.mem_cons, List.not_mem_nil, or_false] at isShape
  rcases isShape with rfl | rfl | rfl | rfl
  · rw [shortLink, List.append_assoc]
    exact id?_append_of_some (by decide) (id?_shortLink_append rest)
  · rw [player, List.append_assoc]
    exact id?_append_of_some (by decide) (id?_player_append rest)
  · rw [version, List.append_assoc]
    exact id?_append_of_some (by decide) (id?_version_append rest)
  · rw [page, List.append_assoc]
    exact id?_append_of_some (by decide) (id?_page_append rest)

/-! ### The identifier -/

section

variable {shape name suffix : Text}

theorem isIdChar_of_isIdLetter {c : Char} (letter : isIdLetter c = true) : isIdChar c = true := by
  have apart {delimiter : Char} (isDelimiter : isIdLetter delimiter = false) : c ≠ delimiter := by
    rintro rfl
    exact absurd letter (Bool.eq_false_iff.mp isDelimiter)
  simp only [isIdChar, Bool.and_eq_true, bne_iff_ne]
  exact ⟨⟨apart (by decide), apart (by decide)⟩, apart (by decide)⟩

theorem takeWhile_name_append (letters : ∀ c ∈ name, isIdLetter c = true)
    (delimited : ∀ c ∈ suffix.head?, c ∈ ['?', '&', '#']) :
    (name ++ suffix).takeWhile isIdChar = name := by
  have stops : suffix.takeWhile isIdChar = [] := by
    cases suffix with
    | nil => rfl
    | cons delimiter rest =>
      have member : delimiter ∈ ['?', '&', '#'] := delimited delimiter rfl
      have ends : ∀ c ∈ ['?', '&', '#'], ¬ isIdChar c = true := by decide
      exact List.takeWhile_cons_of_neg (ends delimiter member)
  rw [List.takeWhile_append_of_pos fun c member => isIdChar_of_isIdLetter (letters c member), stops,
    List.append_nil]

theorem lineEnd_not_mem_name_append (letters : ∀ c ∈ name, isIdLetter c = true)
    (oneLine : '\n' ∉ suffix) : '\n' ∉ name ++ suffix := by
  rw [List.mem_append, not_or]
  exact ⟨fun member => absurd (letters '\n' member) (by decide), oneLine⟩

/-- In a URL of a known shape the identifier is what stands behind the last marker of its name and
the suffix. So the name itself is found exactly if there is no such marker, as in most suffixes, or
if the name stands behind it once more. -/
theorem name_found_iff_behind_last_marker (isShape : shape ∈ shapes)
    (letters : ∀ c ∈ name, isIdLetter c = true)
    (delimited : ∀ c ∈ suffix.head?, c ∈ ['?', '&', '#']) (oneLine : '\n' ∉ suffix) :
    (∀ front marker behind, IsLastMarker (name ++ suffix) front marker behind →
      id? (shape ++ (name ++ suffix)) = some (behind.takeWhile isIdChar)) ∧
    (id? (shape ++ (name ++ suffix)) = some name ↔
      ∀ front marker behind, IsLastMarker (name ++ suffix) front marker behind →
        behind.takeWhile isIdChar = name) := by
  have inLine := lineEnd_not_mem_name_append letters oneLine
  have replaced {front marker behind : Text}
      (isLast : IsLastMarker (name ++ suffix) front marker behind) :
      id? (shape ++ (name ++ suffix)) = some (behind.takeWhile isIdChar) := by
    rw [id?_shape_append isShape, id?_of_isLastMarker inLine isLast]
    rfl
  refine ⟨fun _ _ _ isLast => replaced isLast, fun found front marker behind isLast => ?_,
    fun same => ?_⟩
  · exact Option.some.inj ((replaced isLast).symm.trans found)
  · by_cases inside : ∃ marker, IsMarker marker ∧ marker <:+: name ++ suffix
    · obtain ⟨front, marker, behind, isLast⟩ := exists_isLastMarker inside
      rw [replaced isLast, same front marker behind isLast]
    · have absent : ∀ marker, IsMarker marker → ¬ marker <:+: name ++ suffix :=
        fun marker isMarker found => inside ⟨marker, isMarker, found⟩
      rw [id?_shape_append isShape, id?_eq_none inLine absent, Option.getD_none,
        takeWhile_name_append letters delimited]

end

/-- A player named in the parameters does no harm if it plays the same video. -/
theorem name_found_before_same_player :
    let url := "https://youtu.be/".toList ++ ("a_1".toList ++ "?from=/embed/a_1#t=9".toList)
    "https://youtu.be/".toList ∈ shapes ∧ (∀ c ∈ "a_1".toList, isIdLetter c = true) ∧
      (∀ c ∈ "?from=/embed/a_1#t=9".toList.head?, c ∈ ['?', '&', '#']) ∧
      '\n' ∉ "?from=/embed/a_1#t=9".toList ∧ id? url = some "a_1".toList := by
  intro url
  have isShape : "https://youtu.be/".toList ∈ shapes := List.mem_cons_self
  have letters : ∀ c ∈ "a_1".toList, isIdLetter c = true := by decide
  have delimited : ∀ c ∈ "?from=/embed/a_1#t=9".toList.head?, c ∈ ['?', '&', '#'] := by decide
  have oneLine : '\n' ∉ "?from=/embed/a_1#t=9".toList := by decide
  refine ⟨isShape, letters, delimited, oneLine,
    (name_found_iff_behind_last_marker isShape letters delimited oneLine).2.mpr
      fun front marker behind isLast => ?_⟩
  have found := id?_of_isLastMarker (lineEnd_not_mem_name_append letters oneLine) isLast
  have inSuffix : id? ("a_1".toList ++ "?from=/embed/a_1#t=9".toList) = some "a_1".toList := by
    decide
  exact Option.some.inj (found.symm.trans inSuffix)

/-- A marker in the parameters may put another text in the place of the name. -/
theorem name_not_always_found :
    ¬ ∀ shape ∈ shapes, ∀ name suffix : Text, name ≠ [] → (∀ c ∈ name, isIdLetter c = true) →
      (∀ c ∈ suffix.head?, c ∈ ['?', '&', '#']) → '\n' ∉ suffix →
      id? (shape ++ (name ++ suffix)) = some name := by
  intro always
  have found := always "https://youtu.be/".toList List.mem_cons_self "abc".toList
    "?next=/v/xyz".toList (List.cons_ne_nil _ _) (by decide) (by decide) (by decide)
  exact absurd found (by decide)

end Video

end BookMarkup
