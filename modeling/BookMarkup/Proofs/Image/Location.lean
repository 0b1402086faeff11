/-
This file proves that the file of an image lies below the base directory. The URL is decoded
before its leading slashes are dropped, so it makes no difference whether such a slash is
written as it is or as an escape, nor how many of them there are: what is left has no slash
in front, and such a path only adds components to those of the directory.
-/

import BookMarkup.Image.Location
import BookMarkup.Proofs.Storage.Path
import BookMarkup.Proofs.Text.Occurrence
import BookMarkup.Proofs.Url.Percent

namespace BookMarkup

namespace Image

/-- The ways to write a slash in a URL. -/
def slashSpellings : List Text :=
  ["/".toList, "%2F".toList, "%2f".toList]

theorem decodeLossy_slash_append {spelling : Text} (isSlash : spelling ∈ slashSpellings)
    (rest : Text) : Percent.decodeLossy (spelling ++ rest) = '/' :: Percent.decodeLossy rest := by
  have two : Percent.hexValue? '2' = some 2 := rfl
  have escaped {digit : Char} (fifteen : Percent.hexValue? digit = some 15) :
      Percent.decodeLossy ('%' :: '2' :: digit :: rest) = '/' :: Percent.decodeLossy rest :=
    Percent.decodeLossy_escape two fifteen rfl (by decide) rest
  simp only [slashSpellings, List.mem_cons, List.not_mem_nil, or_false] at isSlash
  rcases isSlash with rfl | rfl | rfl
  · exact Percent.decodeLossy_cons_of_ne (by decide) rest
  · exact escaped rfl
  · exact escaped rfl

/-- Leading slashes of a decoded URL are dropped, however they are written. -/
theorem dropWhile_decodeLossy_append {slashes : List Text}
    (areSlashes : ∀ spelling ∈ slashes, spelling ∈ slashSpellings) (url : Text) :
    (Percent.decodeLossy (slashes.flatten ++ url)).dropWhile (· == '/') =
      (Percent.decodeLossy url).dropWhile (· == '/') := by
  induction slashes with
  | nil => rfl
  | cons spelling others inductionHypothesis =>
    rw [List.flatten_cons, List.append_assoc,
      decodeLossy_slash_append (areSlashes spelling List.mem_cons_self),
      List.dropWhile_cons_of_pos rfl]
    exact inductionHypothesis fun other member => areSlashes other (List.mem_cons_of_mem _ member)

section

variable {directory : Text} (some' : directory ≠ [])

include some' in
theorem pathOf_eq (url : Text) :
    pathOf directory url = Path.ofText
      (Path.joinText directory ((Percent.decodeLossy url).dropWhile (· == '/'))) := by
  rw [pathOf, if_neg (mt List.isEmpty_iff.mp some')]

include some' in
/-- The path of an image has the root of the base directory, and its components are those of the
directory followed by the parts of the decoded URL that are neither empty nor a single dot. Slashes
in front of the URL change nothing about it, however they are written. -/
theorem image_path_extends_directory (url : Text) :
    (pathOf directory url).rootSlashes = (Path.ofText directory).rootSlashes ∧
      (pathOf directory url).components =
        (Path.ofText directory).components ++
          (((Percent.decodeLossy url).dropWhile (· == '/')).splitOn '/').filter
            (fun part => part ≠ [] ∧ part ≠ ['.']) ∧
      ∀ slashes : List Text, (∀ spelling ∈ slashes, spelling ∈ slashSpellings) →
        pathOf directory (slashes.flatten ++ url) = pathOf directory url := by
  have relative : ((Percent.decodeLossy url).dropWhile (· == '/')).head? ≠ some '/' := by
    intro starts
    have stops := Text.stops_dropWhile (· == '/') (Percent.decodeLossy url) '/' starts
    cases stops
  have path := pathOf_eq some' url
  rw [Path.ofText_joinText some' relative] at path
  refine ⟨by rw [path], ?_, fun slashes areSlashes => ?_⟩
  · rw [path, ← Path.componentsOf_eq_splitOn]
    rfl
  · rw [pathOf_eq some', pathOf_eq some', dropWhile_decodeLossy_append areSlashes]

end

/-- Neither an escaped slash nor double dots at the front replace the directory. -/
theorem image_path_behind_escaped_slash :
    "/book".toList ≠ [] ∧
      (pathOf "/book".toList "%2F/../a%20b//./c.png".toList).rootSlashes = 1 ∧
      (pathOf "/book".toList "%2F/../a%20b//./c.png".toList).components =
        ["book".toList, "..".toList, "a b".toList, "c.png".toList] := by
  have some' : "/book".toList ≠ [] := List.cons_ne_nil _ _
  obtain ⟨root, components, -⟩ :=
    image_path_extends_directory some' "%2F/../a%20b//./c.png".toList
  refine ⟨some', root, components.trans ?_⟩
  decide

end Image

end BookMarkup
