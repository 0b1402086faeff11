/-
This file proves that the targets which sanitized links and images point to run no
script. A link that is given an absolute base either keeps the checked target or points
below the base; an image points to the checked source as it stands. What a caption is
rendered to is not looked at: an image element in a caption is none of the figure.
-/

import BookMarkup.Proofs.Hook.Figure
import BookMarkup.Proofs.Hook.Link
import BookMarkup.Proofs.Url.Resolve

namespace BookMarkup

namespace Sanitized

open Url

/-- Whether a base is the address of a web page. -/
def IsWebAddress (base : Text) : Prop :=
  "http://".toList <+: base ∨ "https://".toList <+: base

/-- Whether an attribute value ends at its quote and runs no script once a browser has decoded
it. -/
def IsInert (value : Text) : Prop :=
  '"' ∉ value ∧ runsScript (CharRef.decode value) = false

/-! ### Links -/

/-- What starts as a web address or with a slash runs no script. -/
theorem isInert_of_head? {target : Text}
    (starts : target.head? = some 'h' ∨ target.head? = some '/') :
    IsInert (Html.escapeAttribute (encodeTarget target)) := by
  refine ⟨Html.quote_not_mem_escapeAttribute _, ?_⟩
  rw [encodeTarget_eq_flatMap]
  have first {head : Char} (rest : Text) (plain : encodeTargetChar head = [head])
      (other : head ≠ '&') (inert : ∀ rest, runsScript (head :: rest) = false) :
      runsScript (CharRef.decode
        (Html.escapeAttribute ((head :: rest).flatMap encodeTargetChar))) = false := by
    rw [List.flatMap_cons, plain, List.singleton_append,
      Html.decode_escapeAttribute_cons fun equal => absurd equal other]
    exact inert _
  rcases starts with starts | starts <;> obtain ⟨rest, rfl⟩ := List.head?_eq_some_iff.mp starts
  · exact first rest (by decide) (by decide) fun _ => rfl
  · exact first rest (by decide) (by decide) fun _ => rfl

/-- What is resolved against a web address starts like one or with a slash. -/
theorem head?_resolve_of_isWebAddress {base : Text} (web : IsWebAddress base) (target : Text) :
    (resolve base target).head? = some 'h' ∨ (resolve base target).head? = some '/' := by
  have absolute : ∃ rest, base = 'h' :: rest ∧ '/' ∈ rest := by
    rcases web with ⟨rest, rfl⟩ | ⟨rest, rfl⟩
    · exact ⟨"ttp://".toList ++ rest, rfl, List.mem_append_left _ (by decide)⟩
    · exact ⟨"ttps://".toList ++ rest, rfl, List.mem_append_left _ (by decide)⟩
  obtain ⟨rest, rfl, slash⟩ := absolute
  exact head?_resolve slash target

/-- A target that passes the check is inert, percent-escaped or not. -/
theorem isInert_of_accepted {target : Text} (accepted : rejects true target = .ok false) :
    IsInert (Html.escapeAttribute (encodeTarget target)) ∧
      IsInert (Html.escapeAttribute target) := by
  obtain ⟨-, harmless⟩ := check_eq_ok_iff.mp accepted
  refine ⟨⟨Html.quote_not_mem_escapeAttribute _, ?_⟩, Html.quote_not_mem_escapeAttribute _, ?_⟩
  · rw [encodeTarget_eq_flatMap]
    exact runsScript_eq_false_of_not_isSuspect encodeTargetChar_cases harmless
  · have keeps (c : Char) : [c] = [c] ∨ [c].head? = some '%' := Or.inl rfl
    have inert := runsScript_eq_false_of_not_isSuspect keeps harmless
    rwa [List.flatMap_singleton'] at inert

/-- A cleaned target is inert. -/
theorem isInert_of_clean {base : Option Text} (based : ∀ address, base = some address →
    IsWebAddress address) {target cleaned : Text}
    (kept : clean true base target = .ok (some cleaned)) :
    IsInert (Html.escapeAttribute cleaned) := by
  obtain ⟨accepted, rfl⟩ := clean_eq_some_iff.mp kept
  have checked := (isInert_of_accepted accepted).1
  unfold resolveAgainst
  split
  · next address =>
    split_ifs with unresolved
    · exact checked
    · exact isInert_of_head? (head?_resolve_of_isWebAddress (based address rfl) target)
  · exact checked

/-- A sanitized link that is rendered shows its content alone or points to an inert target. -/
theorem linkMarkup_cases {base : Option Text}
    (based : ∀ address, base = some address → IsWebAddress address) {content url : Text}
    {title : Option Text} {html : Text}
    (rendered : Hook.linkMarkup content title (clean true base url) = .ok html) :
    html = content ∨
      ∃ target rest, IsInert target ∧ html = "<a href=\"".toList ++ target ++ ['"'] ++ rest := by
  by_cases player : "iframe".toList <:+: content
  · rw [Hook.linkMarkup_of_player player] at rendered
    exact Or.inl (Except.ok.inj rendered).symm
  · rcases cleaned : clean true base url with number | (_ | target)
    · rw [cleaned, Hook.linkMarkup_of_long player] at rendered
      cases rendered
    · rw [cleaned, Hook.linkMarkup_of_rejected] at rendered
      exact Or.inl (Except.ok.inj rendered).symm
    · rw [cleaned, Hook.linkMarkup_of_kept player] at rendered
      obtain ⟨rest, starts⟩ := Hook.pointTo_starts content target title
      rw [← Except.ok.inj rendered]
      exact Or.inr ⟨Html.escapeAttribute target, rest, isInert_of_clean based cleaned, starts⟩

/-- A sanitized link fails only if its target holds too long a number. -/
theorem exists_linkMarkup {base : Option Text} {url : Text}
    (short : ¬ CharRef.HoldsLongNumber url) (content : Text) (title : Option Text) :
    ∃ html, Hook.linkMarkup content title (clean true base url) = .ok html := by
  have answer : rejects true url = .ok (isSuspect (CharRef.decode url)) :=
    check_eq_ok_iff.mpr ⟨short, rfl⟩
  unfold Hook.linkMarkup clean
  rw [answer]
  split_ifs
  · exact ⟨_, rfl⟩
  · exact ⟨_, rfl⟩

/-! ### Images -/

/-- A sanitized image that is rendered is dropped, shown as a player, or shown with an inert
source. -/
theorem image_cases {setting : Setting} (sanitized : setting.options.sanitize = true)
    {content url : Text} {title : Option Text} {state : RenderState} {html : Text}
    (rendered : (Hook.image setting content url title state).result = .ok html) :
    (rejects true url = .ok true ∧ html = Hook.alternativeText content) ∨
      (Video.isEmbeddable url = true ∧ html = Hook.videoMarkup setting url title) ∨
      IsInert (Html.escapeAttribute url) ∧
        ∃ size, html = Hook.imageMarkup setting content url size title := by
  rcases Hook.image_ways setting.options url with ⟨number, long⟩ | dropped | ⟨kept, video⟩ | probed
  · rw [Hook.image_of_longNumber content title state long] at rendered
    cases rendered
  · rw [Hook.image_of_dropped content title state dropped] at rendered
    rw [sanitized] at dropped
    exact Or.inl ⟨dropped, (Except.ok.inj rendered).symm⟩
  · rw [Hook.image_of_video content title state kept video] at rendered
    exact Or.inr (Or.inl ⟨video, (Except.ok.inj rendered).symm⟩)
  · have accepted := probed.1
    rw [sanitized] at accepted
    exact Or.inr (Or.inr ⟨(isInert_of_accepted accepted).2,
      Hook.exists_imageMarkup content title state probed rendered⟩)

/-! ### Sanitized markup -/

/-- With sanitizing on and no base or the address of a web page as the base, a link results in its
content alone or in an anchor whose target runs no script, and an image that results in a figure
with an image element in front of its caption gives it a source that runs no script: neither starts
with a script scheme once a browser has decoded its character references, passed over leading
controls and spaces and dropped tabs and line breaks. A link results in something unless its target
holds too long a number. -/
theorem links_and_images_run_no_script (setting : Setting)
    (sanitized : setting.options.sanitize = true)
    (based : ∀ base, setting.options.baseUrl = some base → IsWebAddress base)
    (state : RenderState) (content url : Text) (title : Option Text) :
    (¬ CharRef.HoldsLongNumber url →
      ∃ html, ((Call.link content url title).run setting state).result = .ok html) ∧
    (∀ html, ((Call.link content url title).run setting state).result = .ok html →
      html = content ∨
        ∃ target rest, '"' ∉ target ∧ runsScript (CharRef.decode target) = false ∧
          html = "<a href=\"".toList ++ target ++ ['"'] ++ rest) ∧
    ∀ html, ((Call.image content url title).run setting state).result = .ok html →
      (rejects true url = .ok true ∧ html = Hook.alternativeText content ∧ '<' ∉ html) ∨
      (Video.isEmbeddable url = true ∧ html = Hook.videoMarkup setting url title ∧
        ∃ front, Text.IsFreeOf "<img".toList front ∧
          html = front ++ Hook.figureEnd setting title) ∨
      ∃ front alternative source rest,
        Text.IsFreeOf "<img".toList front ∧ '"' ∉ alternative ∧ '"' ∉ source ∧
          runsScript (CharRef.decode source) = false ∧ Text.IsFreeOf "<img".toList rest ∧
          html = front ++ "<img alt=\"".toList ++ alternative ++ "\" src=\"".toList ++ source ++
            ['"'] ++ rest ++ Hook.figureEnd setting title := by
  have link : ((Call.link content url title).run setting state).result =
      (Hook.linkMarkup content title (clean true setting.options.baseUrl url)).mapError
        .longNumber := by
    rw [← sanitized]
    exact Hook.result_attempt_link _ state
  refine ⟨fun short => ?_, fun html rendered => ?_, fun html rendered => ?_⟩
  · obtain ⟨html, written⟩ := exists_linkMarkup short content title
    rw [link, written]
    exact ⟨html, rfl⟩
  · rw [link] at rendered
    cases written : Hook.linkMarkup content title (clean true setting.options.baseUrl url) with
    | error number =>
      rw [written] at rendered
      cases rendered
    | ok markup =>
      rw [written] at rendered
      obtain rfl := Except.ok.inj rendered
      rcases linkMarkup_cases based written with bare | ⟨target, rest, ⟨closed, inert⟩, equal⟩
      · exact Or.inl bare
      · exact Or.inr ⟨target, rest, closed, inert, equal⟩
  · rcases image_cases sanitized rendered with ⟨dropped, rfl⟩ | ⟨video, rfl⟩ |
      ⟨⟨closed, inert⟩, size, rfl⟩
    · exact Or.inl ⟨dropped, rfl, (Html.isSealed_escapeAttribute _).2.1⟩
    · obtain ⟨front, bare, shape⟩ := Hook.videoMarkup_shape setting url title
      exact Or.inr (Or.inl ⟨video, rfl, front, bare.no_image, shape⟩)
    · obtain ⟨front, rest, bareFront, bareRest, shape⟩ :=
        Hook.imageMarkup_shape setting content url size title
      exact Or.inr (Or.inr ⟨front, Hook.alternativeText content, Html.escapeAttribute url, rest,
        bareFront.no_image, Html.quote_not_mem_escapeAttribute _, closed, inert,
        bareRest.no_image, shape⟩)

/-- A base, a link below it and an image that nothing is known about. -/
theorem link_and_image_below_base :
    let setting : Setting :=
      ⟨{ sanitize := true, baseUrl := some "https://example.com/book/".toList }, .ofFiles []⟩
    (∃ target rest, '"' ∉ target ∧ runsScript (CharRef.decode target) = false ∧
      ((Call.link "Next".toList "chapter-2".toList none).run setting (.fresh 1)).result =
        .ok ("<a href=\"".toList ++ target ++ ['"'] ++ rest)) ∧
    ∃ front alternative source rest,
      Text.IsFreeOf "<img".toList front ∧ '"' ∉ alternative ∧ '"' ∉ source ∧
        runsScript (CharRef.decode source) = false ∧
        ((Call.image "Cover".toList "cover.png".toList none).run setting (.fresh 1)).result =
          .ok (front ++ "<img alt=\"".toList ++ alternative ++ "\" src=\"".toList ++ source ++
            ['"'] ++ rest ++ "</figure>\n".toList) := by
  intro setting
  have based : ∀ base, setting.options.baseUrl = some base → IsWebAddress base := by
    intro base equal
    cases equal
    exact Or.inr ⟨"example.com/book/".toList, rfl⟩
  constructor
  · obtain ⟨renders, shapes, -⟩ := links_and_images_run_no_script setting rfl based (.fresh 1)
      "Next".toList "chapter-2".toList none
    obtain ⟨html, rendered⟩ := renders fun long => absurd long.length_lt (by decide)
    rcases shapes html rendered with rfl | ⟨target, rest, closed, inert, rfl⟩
    · have same := Except.ok.inj rendered
      exact absurd same (by decide)
    · exact ⟨target, rest, closed, inert, rendered⟩
  · obtain ⟨-, -, images⟩ := links_and_images_run_no_script setting rfl based (.fresh 1)
      "Cover".toList "cover.png".toList none
    obtain ⟨html, rendered⟩ : ∃ html, ((Call.image "Cover".toList "cover.png".toList none).run
        setting (.fresh 1)).result = .ok html := ⟨_, rfl⟩
    rcases images html rendered with ⟨dropped, -⟩ | ⟨video, -⟩ | figure
    · exact absurd dropped (by decide)
    · exact absurd video (by decide)
    · obtain ⟨front, alternative, source, rest, first, free, closed, inert, -, rfl⟩ := figure
      exact ⟨front, alternative, source, rest, first, free, closed, inert, rendered⟩

end Sanitized

end BookMarkup
