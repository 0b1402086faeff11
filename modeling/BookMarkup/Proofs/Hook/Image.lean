/-
This file takes the rendering of an image apart. An image goes one of four ways: its URL
cannot be checked, it is dropped as unsafe, it is shown as a player, or its size is probed;
and what becomes of a probed image depends on the result of probing alone. Each way has an
equation that gives the whole outcome. The construct is entered on all of them.
-/

import BookMarkup.Hook.Call
import Mathlib.Tactic.SplitIfs

namespace BookMarkup

namespace Hook

/-- Whether the size of the image at a URL is probed: the image is neither dropped as unsafe nor a
video, and its URL can be checked. -/
def IsProbed (options : Options) (url : Text) : Prop :=
  Url.rejects options.sanitize url = .ok false ∧ Video.isEmbeddable url = false

theorem image_ways (options : Options) (url : Text) :
    (∃ number, Url.rejects options.sanitize url = .error number) ∨
      Url.rejects options.sanitize url = .ok true ∨
      (Url.rejects options.sanitize url = .ok false ∧ Video.isEmbeddable url = true) ∨
      IsProbed options url := by
  cases checked : Url.rejects options.sanitize url with
  | error number => exact Or.inl ⟨number, rfl⟩
  | ok rejected =>
    cases rejected with
    | true => exact Or.inr (Or.inl rfl)
    | false =>
      cases video : Video.isEmbeddable url with
      | true => exact Or.inr (Or.inr (Or.inl ⟨rfl, rfl⟩))
      | false => exact Or.inr (Or.inr (Or.inr ⟨checked, video⟩))

variable {setting : Setting} {url : Text}

section Ways

variable (content : Text) (title : Option Text) (state : RenderState)

/-- An image at a URL that cannot be checked fails. -/
theorem image_of_longNumber {number : CharRef.LongNumber}
    (long : Url.rejects setting.options.sanitize url = .error number) :
    image setting content url title state =
      ⟨.error (.longNumber number), [], (state.enter .image none).2⟩ := by
  simp only [image, long]

/-- A dropped image leaves its alternative text. -/
theorem image_of_dropped (dropped : Url.rejects setting.options.sanitize url = .ok true) :
    image setting content url title state =
      ⟨.ok (alternativeText content), [.unsafeSource url], (state.enter .image none).2⟩ := by
  simp only [image, dropped]
  rfl

/-- A video is shown as a player. -/
theorem image_of_video (kept : Url.rejects setting.options.sanitize url = .ok false)
    (video : Video.isEmbeddable url = true) :
    image setting content url title state =
      ⟨.ok (videoMarkup setting url title), videoWarnings url, (state.enter .image none).2⟩ := by
  simp only [image, kept, video, if_true]
  rfl

variable (probed : IsProbed setting.options url)

include probed

/-- An image that is probed goes by what probing gives. -/
theorem image_of_isProbed :
    image setting content url title state =
      match probeUrl setting url with
      | .ok size =>
        ⟨.ok (imageMarkup setting content url (some size) title), [], (state.enter .image none).2⟩
      | .error (.escaped error) => ⟨.error (.escaped error), [], (state.enter .image none).2⟩
      | .error (.unreadable cause) =>
        if setting.options.failOnResourceErrors then
          ⟨.error (.unreadableImage url cause), [], (state.enter .image none).2⟩
        else
          ⟨.ok (imageMarkup setting content url none title), [.unreadableSize url cause],
            (state.enter .image none).2⟩ := by
  obtain ⟨kept, still⟩ := probed
  simp only [image, kept, still, Bool.false_eq_true, if_false]
  rfl

theorem image_of_size {size : Image.Size} (known : probeUrl setting url = .ok size) :
    image setting content url title state =
      ⟨.ok (imageMarkup setting content url (some size) title), [],
        (state.enter .image none).2⟩ := by
  rw [image_of_isProbed content title state probed, known]

theorem image_of_escaped {error : Image.Escaped}
    (escapes : probeUrl setting url = .error (.escaped error)) :
    image setting content url title state =
      ⟨.error (.escaped error), [], (state.enter .image none).2⟩ := by
  rw [image_of_isProbed content title state probed, escapes]

/-- An image of unreadable size fails or is rendered with a warning. -/
theorem image_of_unreadable {cause : Image.Unreadable}
    (unreadable : probeUrl setting url = .error (.unreadable cause)) :
    image setting content url title state =
      if setting.options.failOnResourceErrors then
        ⟨.error (.unreadableImage url cause), [], (state.enter .image none).2⟩
      else
        ⟨.ok (imageMarkup setting content url none title), [.unreadableSize url cause],
          (state.enter .image none).2⟩ := by
  rw [image_of_isProbed content title state probed, unreadable]

/-- A probed image that does not fail is shown as an image, of a known size or of none. -/
theorem exists_imageMarkup {html : Text}
    (rendered : (image setting content url title state).result = .ok html) :
    ∃ size, html = imageMarkup setting content url size title := by
  rcases probing : probeUrl setting url with (cause | error) | size
  · rw [image_of_unreadable content title state probed probing] at rendered
    split_ifs at rendered
    cases rendered
    exact ⟨none, rfl⟩
  · rw [image_of_escaped content title state probed probing] at rendered
    cases rendered
  · rw [image_of_size content title state probed probing] at rendered
    cases rendered
    exact ⟨some size, rfl⟩

end Ways

/-- An image enters its construct whether it is dropped, rendered or fails. -/
theorem image_state (setting : Setting) (content url : Text) (title : Option Text)
    (state : RenderState) :
    (image setting content url title state).state = (state.enter .image none).2 := by
  rcases image_ways setting.options url with ⟨number, long⟩ | dropped | ⟨kept, video⟩ | probed
  · rw [image_of_longNumber content title state long]
  · rw [image_of_dropped content title state dropped]
  · rw [image_of_video content title state kept video]
  · rw [image_of_isProbed content title state probed]
    rcases probeUrl setting url with (cause | error) | size
    · simp only
      split_ifs <;> rfl
    · rfl
    · rfl

end Hook

end BookMarkup
