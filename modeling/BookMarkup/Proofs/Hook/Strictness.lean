/-
This file compares rendering an image strictly and leniently. How strict the options are
decides nothing but what becomes of an unreadable size: where the lenient run warns about
it and goes on, the strict one fails with what probing gave. Nowhere else can the two runs
be told apart, and they always end in the same state, because the state is left behind
before the size is probed.
-/

import BookMarkup.Proofs.Session.Effect
import BookMarkup.Tools.Known

namespace BookMarkup

/-- A setting that fails on unreadable sizes, or else only warns about them. -/
def Setting.withStrict (setting : Setting) (strict : Bool) : Setting :=
  { setting with options := { setting.options with failOnResourceErrors := strict } }

namespace Hook

variable {setting : Setting} {url : Text}

/-- What is checked and probed does not depend on how strict the options are. -/
theorem isProbed_withStrict (strict : Bool) :
    IsProbed (setting.withStrict strict).options url ↔ IsProbed setting.options url := Iff.rfl

theorem probeUrl_withStrict (strict : Bool) (url : Text) :
    probeUrl (setting.withStrict strict) url = probeUrl setting url := rfl

/-- Whether rendering an image meets a size that cannot be read. -/
def MeetsUnreadable (setting : Setting) (url : Text) : Prop :=
  IsProbed setting.options url ∧ ∃ cause, probeUrl setting url = .error (.unreadable cause)

/-- Without an unreadable size strict and lenient rendering are the same. -/
theorem image_withStrict_of_not_meetsUnreadable (readable : ¬ MeetsUnreadable setting url)
    (first second : Bool) (content : Text) (title : Option Text) (state : RenderState) :
    image (setting.withStrict first) content url title state =
      image (setting.withStrict second) content url title state := by
  rcases image_ways setting.options url with ⟨number, long⟩ | dropped | ⟨kept, video⟩ | probed
  -- An image that is not probed never comes to the option.
  · have longs (strict : Bool) :
        Url.rejects (setting.withStrict strict).options.sanitize url = .error number := long
    rw [image_of_longNumber _ _ _ (longs first), image_of_longNumber _ _ _ (longs second)]
  · have drops (strict : Bool) :
        Url.rejects (setting.withStrict strict).options.sanitize url = .ok true := dropped
    rw [image_of_dropped _ _ _ (drops first), image_of_dropped _ _ _ (drops second)]
  · have keeps (strict : Bool) :
        Url.rejects (setting.withStrict strict).options.sanitize url = .ok false := kept
    rw [image_of_video _ _ _ (keeps first) video, image_of_video _ _ _ (keeps second) video]
    rfl
  · rw [image_of_isProbed _ _ _ ((isProbed_withStrict first).mpr probed),
      image_of_isProbed _ _ _ ((isProbed_withStrict second).mpr probed), probeUrl_withStrict,
      probeUrl_withStrict]
    rcases probing : probeUrl setting url with (cause | error) | size
    · exact absurd ⟨probed, cause, probing⟩ readable
    · rfl
    · rfl

/-- An unreadable size is an error of strict rendering and a warning of lenient rendering. -/
theorem image_withStrict_of_unreadable (probed : IsProbed setting.options url)
    {cause : Image.Unreadable} (unreadable : probeUrl setting url = .error (.unreadable cause))
    (strict : Bool) (content : Text) (title : Option Text) (state : RenderState) :
    image (setting.withStrict strict) content url title state =
      if strict then
        ⟨.error (.unreadableImage url cause), [], (state.enter .image none).2⟩
      else
        ⟨.ok (imageMarkup setting content url none title), [.unreadableSize url cause],
          (state.enter .image none).2⟩ :=
  image_of_unreadable content title state ((isProbed_withStrict strict).mpr probed) unreadable

/-- Rendering that meets no unreadable size warns about none. -/
theorem unreadableSize_not_mem_warnings (readable : ¬ MeetsUnreadable setting url)
    (content : Text) (title : Option Text) (state : RenderState) (source : Text)
    (cause : Image.Unreadable) :
    .unreadableSize source cause ∉ (image setting content url title state).warnings := by
  intro warned
  rcases image_ways setting.options url with ⟨number, long⟩ | dropped | ⟨kept, video⟩ | probed
  · rw [image_of_longNumber _ _ _ long] at warned
    cases warned
  · rw [image_of_dropped _ _ _ dropped] at warned
    cases List.mem_singleton.mp warned
  · rw [image_of_video _ _ _ kept video] at warned
    unfold videoWarnings at warned
    split_ifs at warned
    · cases List.mem_singleton.mp warned
    · cases warned
  · rcases probing : probeUrl setting url with (cause | error) | size
    · exact readable ⟨probed, cause, probing⟩
    · rw [image_of_escaped _ _ _ probed probing] at warned
      cases warned
    · rw [image_of_size _ _ _ probed probing] at warned
      cases warned

/-! ### The two runs -/

/-- Strict and lenient rendering of an image agree. When the lenient run warns about no unreadable
size, the strict run has the same result, be it markup or a failure, and the same warnings. When it
does warn, the strict run fails at the stage of the image with the failed probe as its origin; its
message is that of the warning without the cause. Both runs always end in the same state. -/
theorem strict_and_lenient_images_agree (setting : Setting) (state : RenderState)
    (content url : Text) (title : Option Text) :
    let lenient := (Call.image content url title).run (setting.withStrict false) state
    let strict := (Call.image content url title).run (setting.withStrict true) state
    ((∀ source cause, .unreadableSize source cause ∉ lenient.warnings) →
      strict.result = lenient.result ∧ strict.warnings = lenient.warnings) ∧
    (∀ source cause, .unreadableSize source cause ∈ lenient.warnings →
      ∃ failure, strict.result = .error failure ∧ failure.stage? = some "image".toList ∧
        failure.origin? = some cause ∧ probeUrl setting url = .error (.unreadable cause) ∧
        failure.message = "Unable to read size of \"".toList ++ url ++ ['"'] ∧
        (Warning.unreadableSize source cause).message =
          failure.message ++ ": ".toList ++ cause.message) ∧
    strict.state = lenient.state := by
  intro lenient strict
  have isLenient : lenient = image (setting.withStrict false) content url title state := rfl
  have isStrict : strict = image (setting.withStrict true) content url title state := rfl
  refine ⟨fun silent => ?_, fun source cause warned => ?_, ?_⟩
  · have readable : ¬ MeetsUnreadable setting url := by
      rintro ⟨probed, cause, unreadable⟩
      refine silent url cause ?_
      rw [isLenient, image_withStrict_of_unreadable probed unreadable]
      exact List.mem_singleton_self _
    rw [isLenient, isStrict, image_withStrict_of_not_meetsUnreadable readable true false]
    exact ⟨rfl, rfl⟩
  · have meets : MeetsUnreadable setting url := by
      refine Classical.byContradiction fun readable => ?_
      have silent : ¬ MeetsUnreadable (setting.withStrict false) url := readable
      exact unreadableSize_not_mem_warnings silent content title state source cause warned
    obtain ⟨probed, met, unreadable⟩ := meets
    obtain ⟨rfl, rfl⟩ : source = url ∧ cause = met := by
      rw [isLenient, image_withStrict_of_unreadable probed unreadable] at warned
      exact Warning.unreadableSize.inj (List.mem_singleton.mp warned)
    refine ⟨.unreadableImage source cause, ?_, rfl, rfl, unreadable, rfl, rfl⟩
    rw [isStrict, image_withStrict_of_unreadable probed unreadable]
    rfl
  · exact (Call.run_state _ _ state).trans (Call.run_state _ _ state).symm

/-- A missing file is warned about or fails, and a player is shown in either run. -/
theorem missing_image_and_player_agree :
    let setting : Setting := ⟨{}, .ofFiles []⟩
    let missing := fun strict => (Call.image "A".toList "gone.png".toList none).run
      (setting.withStrict strict) (.fresh 1)
    let player := fun strict => (Call.image "A".toList "https://youtu.be/".toList none).run
      (setting.withStrict strict) (.fresh 1)
    let cause := Image.Unreadable.refused "gone.png".toList
      ⟨"FileNotFoundError".toList, "[Errno 2] No such file or directory: 'gone.png'".toList⟩
    (Warning.unreadableSize "gone.png".toList cause ∈ (missing false).warnings ∧
      ∃ failure, (missing true).result = .error failure ∧ failure.stage? = some "image".toList ∧
        failure.origin? = some cause ∧
        probeUrl setting "gone.png".toList = .error (.unreadable cause) ∧
        failure.message = "Unable to read size of \"gone.png\"".toList) ∧
    ((∀ source cause, .unreadableSize source cause ∉ (player false).warnings) ∧
      (player true).result = (player false).result ∧
      (player true).warnings = (player false).warnings) := by
  intro setting missing player cause
  obtain ⟨-, warns, -⟩ :=
    strict_and_lenient_images_agree setting (.fresh 1) "A".toList "gone.png".toList none
  obtain ⟨agrees, -, -⟩ :=
    strict_and_lenient_images_agree setting (.fresh 1) "A".toList "https://youtu.be/".toList none
  have warned : Warning.unreadableSize "gone.png".toList cause ∈ (missing false).warnings := by
    decide +kernel
  have silent (source : Text) (cause : Image.Unreadable) :
      .unreadableSize source cause ∉ (player false).warnings := by
    have shown : (player false).warnings = [] := by decide
    rw [shown]
    exact List.not_mem_nil
  obtain ⟨failure, fails, stage, origin, probing, message, -⟩ := warns _ _ warned
  exact ⟨⟨warned, failure, fails, stage, origin, probing, message⟩, silent, agrees silent⟩

end Hook

end BookMarkup
