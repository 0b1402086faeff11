/-
This file proves which links keep their target. A link whose target is rejected leaves its
content, and so does one whose content holds the word that embedded players are known by,
whether it stands in a tag or among the words of the link. Every other link points to its
cleaned target. An anchor is longer than its content, so no link does both.
-/

import BookMarkup.Hook.Call
import BookMarkup.Proofs.Text.Occurrence
import BookMarkup.Proofs.Url.Cleaned
import BookMarkup.Tools.Known

namespace BookMarkup

namespace Hook

open Url

/-- Content that points to an address. A title is an attribute of its own; there is none for a
missing title and for an empty one. -/
def pointTo (content address : Text) (title : Option Text) : Text :=
  let shown := title.getD []
  let titled :=
    if shown = [] then [] else " title=\"".toList ++ Html.escapeAttribute shown ++ ['"']
  "<a href=\"".toList ++ Html.escapeAttribute address ++ ['"'] ++ titled ++ ['>'] ++ content ++
    "</a>".toList

theorem pointTo_starts (content address : Text) (title : Option Text) :
    ∃ rest, pointTo content address title =
      "<a href=\"".toList ++ Html.escapeAttribute address ++ ['"'] ++ rest := by
  unfold pointTo
  simp only [List.append_assoc]
  exact ⟨_, rfl⟩

theorem pointTo_ne_content (content address : Text) (title : Option Text) :
    pointTo content address title ≠ content := by
  obtain ⟨front, spelled⟩ : ∃ front, pointTo content address title =
      front ++ content ++ "</a>".toList := ⟨_, rfl⟩
  have ends : "</a>".toList.length = 4 := rfl
  rw [spelled]
  intro equal
  have same := congrArg List.length equal
  rw [List.length_append, List.length_append, ends] at same
  omega

/-! ### Targets without surrogates -/

theorem titleAttribute_eq (title : Option Text) :
    titleAttribute title =
      let shown := title.getD []
      if shown = [] then [] else " title=\"".toList ++ Html.escapeAttribute shown ++ ['"'] := by
  match title with
  | none | some [] => rfl
  | some (_ :: _) => rfl

theorem holdsPlayer_iff {content : Text} :
    Text.occursIn "iframe".toList content = true ↔ "iframe".toList <:+: content :=
  Text.occursIn_iff (by decide)

theorem linkMarkup_of_player {content : Text} (player : "iframe".toList <:+: content)
    (title : Option Text) (cleaned : Except CharRef.LongNumber (Option Text)) :
    linkMarkup content title cleaned = .ok content := by
  rw [linkMarkup, if_pos (holdsPlayer_iff.mpr player)]

theorem linkMarkup_of_kept {content : Text} (noPlayer : ¬ "iframe".toList <:+: content)
    (title : Option Text) (address : Text) :
    linkMarkup content title (.ok (some address)) = .ok (pointTo content address title) := by
  have written : anchor content title (some address) = pointTo content address title := by
    unfold anchor
    rw [titleAttribute_eq]
    rfl
  rw [linkMarkup, if_neg (mt holdsPlayer_iff.mp noPlayer), ← written]
  rfl

theorem linkMarkup_of_rejected (content : Text) (title : Option Text) :
    linkMarkup content title (.ok none) = .ok content := by
  unfold linkMarkup
  split_ifs <;> rfl

theorem linkMarkup_of_long {content : Text} (noPlayer : ¬ "iframe".toList <:+: content)
    (title : Option Text) (number : CharRef.LongNumber) :
    linkMarkup content title (.error number) = .error number := by
  rw [linkMarkup, if_neg (mt holdsPlayer_iff.mp noPlayer)]
  rfl

/-- What a link results in. Inline constructs put nothing in front of their markup. -/
theorem result_attempt_link (markup : Except CharRef.LongNumber Text) (state : RenderState) :
    (attempt .link markup state).result = markup.mapError .longNumber := by
  cases markup <;> rfl

/-! ### All targets -/

/-- A link whose target is rejected leaves its content. One whose target is cleaned points to it
exactly if its content does not hold `iframe`, and leaves its content otherwise. -/
theorem link_points_to_target_iff (setting : Setting) (state : RenderState) (content : Text)
    (points : List CodePoint) (title : Option Text) :
    let target := cleanCodePoints setting.options.sanitize setting.options.baseUrl points
    let result := (linkCodePoints setting.options content points title state).result
    (∀ url : Text, points = url.map .scalar →
      ((Call.link content url title).run setting state).result = result) ∧
    (target = .ok none → result = .ok content) ∧
    ∀ address, target = .ok (some address) →
      (result = .ok (pointTo content address title) ↔ ¬ "iframe".toList <:+: content) ∧
      ("iframe".toList <:+: content → result = .ok content) := by
  intro target result
  have written : result = (attempt .link (linkMarkup content title target) state).result := rfl
  refine ⟨?_, fun rejected => ?_, fun address kept => ?_⟩
  · rintro url rfl
    have cleaned : target = clean setting.options.sanitize setting.options.baseUrl url := by
      show cleanCodePoints _ _ _ = _
      rw [cleanCodePoints, text?_map_scalar]
    rw [written, cleaned]
    rfl
  · rw [written, rejected, linkMarkup_of_rejected]
    rfl
  · have left (player : "iframe".toList <:+: content) : result = .ok content := by
      rw [written, linkMarkup_of_player player]
      rfl
    refine ⟨⟨fun pointing player => ?_, fun noPlayer => ?_⟩, left⟩
    · have same := pointing.symm.trans (left player)
      exact pointTo_ne_content content address title (Except.ok.inj same)
    · rw [written, kept, linkMarkup_of_kept noPlayer]
      rfl

/-- A relative target is resolved and its link points to it with a title; a script and a lone
surrogate are rejected. -/
theorem link_to_resolved_target :
    let setting : Setting :=
      ⟨{ sanitize := true, baseUrl := some "https://example.com/book/".toList }, .ofFiles []⟩
    let result := fun points =>
      (linkCodePoints setting.options "next part".toList points (some "Part \"2\"".toList)
        (.fresh 1)).result
    ((Call.link "next part".toList "part 2?a&b".toList (some "Part \"2\"".toList)).run setting
        (.fresh 1)).result =
      .ok ("<a href=\"https://example.com/book/part%202?a&amp;b\" title=\"Part &quot;2&quot;\">" ++
        "next part</a>").toList ∧
    result ("javascript:x".toList.map .scalar) = .ok "next part".toList ∧
    result [.scalar 'a', .surrogate 0xD800] = .ok "next part".toList := by
  intro setting result
  have facts := fun points =>
    link_points_to_target_iff setting (.fresh 1) "next part".toList points
      (some "Part \"2\"".toList)
  have noPlayer : ¬ "iframe".toList <:+: "next part".toList := by decide
  have cleaned : cleanCodePoints true (some "https://example.com/book/".toList)
      ("part 2?a&b".toList.map .scalar) =
        .ok (some "https://example.com/book/part%202?a&b".toList) := by decide +kernel
  refine ⟨?_, ?_, ?_⟩
  · obtain ⟨rendered, -, points⟩ := facts ("part 2?a&b".toList.map .scalar)
    rw [rendered _ rfl, (points _ cleaned).1.mpr noPlayer]
    rfl
  · exact (facts ("javascript:x".toList.map .scalar)).2.1 (by decide +kernel)
  · exact (facts [.scalar 'a', .surrogate 0xD800]).2.1 rfl

/-- Not every link without a tag in its content keeps its target: the word `iframe` is enough to
lose it. -/
theorem link_may_lose_target :
    ¬ ∀ (setting : Setting) (state : RenderState) (content url address : Text)
      (title : Option Text), '<' ∉ content →
      clean setting.options.sanitize setting.options.baseUrl url = .ok (some address) →
      ((Call.link content url title).run setting state).result =
        .ok (pointTo content address title) := by
  intro always
  have kept := always ⟨{}, .ofFiles []⟩ (.fresh 1) "iframe".toList "https://example.com/".toList
    "https://example.com/".toList none (by decide) (by decide +kernel)
  have left : ((Call.link "iframe".toList "https://example.com/".toList none).run ⟨{}, .ofFiles []⟩
      (.fresh 1)).result = .ok "iframe".toList := rfl
  rw [left] at kept
  exact pointTo_ne_content _ _ _ (Except.ok.inj kept).symm

end Hook

end BookMarkup
