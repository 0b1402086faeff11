/-
This file proves what rendering an image comes to when unreadable sizes are only warned
about. The size is probed unless the image is dropped or shown as a player. An unreadable
size costs the size attributes and gives one warning. An image that announces too many
pixels is no unreadable one: rendering it fails, whatever the options say. So does a URL
that cannot be checked, and a library that cannot be examined.
-/

import BookMarkup.Proofs.Hook.Image
import BookMarkup.Proofs.Image.Probe
import BookMarkup.Proofs.Url.Script
import BookMarkup.Tools.Known

namespace BookMarkup

namespace Hook

/-! ### The figure -/

/-- A figure with an image, spelled as it is written: whether it is marked as small, the attributes
that give the size of the image, and the box that keeps room for it. -/
def writtenFigure (setting : Setting) (content url : Text) (title : Option Text) (small : Bool)
    (attributes placeholder : Text) : Text :=
  let caption := Figure.splitCredit (title.getD [])
  "\n<figure>\n<div class=\"image".toList ++
    (if caption.text.isEmpty then " no-caption".toList else []) ++
    (if small then " small".toList else []) ++ "\">\n<div class=\"img\"><img alt=\"".toList ++
    alternativeText content ++ "\" src=\"".toList ++ Html.escapeAttribute url ++ ['"'] ++
    attributes ++ voidEnd setting.options.xhtml ++ "></div>\n".toList ++ placeholder ++
    "\n</div>\n".toList ++ captionMarkup setting.tools.renderPlain caption ++ "</figure>\n".toList

/-- The figure of an image of unknown size. -/
def unsizedFigure (setting : Setting) (content url : Text) (title : Option Text) : Text :=
  writtenFigure setting content url title false [] []

/-- The figure of an image of known size, with its height as a percentage of its width. -/
def sizedFigure (setting : Setting) (content url : Text) (title : Option Text) (size : Image.Size)
    (ratio : Text) : Text :=
  writtenFigure setting content url title
    (decide (size.width ≤ setting.options.smallImageMaxWidth))
    (" width=\"".toList ++ Text.ofInt size.width ++ "\" height=\"".toList ++
      Text.ofInt size.height ++ "\" loading=\"lazy\"".toList)
    ("<div class=\"ratio\" style=\"padding-top: ".toList ++ ratio ++ "%;\"></div>".toList)

theorem join_figureClasses (options : Options) (caption : Figure.Caption)
    (size : Option Image.Size) :
    Text.join [' '] ("image".toList :: figureClasses options caption size) =
      "image".toList ++ (if caption.text.isEmpty then " no-caption".toList else []) ++
        if size.any fun known => known.width ≤ options.smallImageMaxWidth then " small".toList
        else [] := by
  unfold figureClasses
  split_ifs <;> rfl

/-- The figure of an image as it is written. -/
theorem imageMarkup_eq (setting : Setting) (content url : Text) (size : Option Image.Size)
    (title : Option Text) :
    imageMarkup setting content url size title =
      writtenFigure setting content url title
        (size.any fun known => known.width ≤ setting.options.smallImageMaxWidth)
        (Figure.sizeAttributes size) ((Figure.renderPlaceholder? size).getD []) := by
  have opening : "\n<figure>\n<div class=\"image".toList =
      "\n<figure>\n<div class=\"".toList ++ "image".toList := rfl
  have start : "\">\n<div class=\"img\"><img alt=\"".toList =
      "\">\n".toList ++ "<div class=\"img\"><img alt=\"".toList := rfl
  have ending : "></div>\n".toList = "></div>".toList ++ ['\n'] := rfl
  unfold imageMarkup figureMarkup Figure.render Figure.renderImage writtenFigure voidEnd
  simp only [join_figureClasses, opening, start, ending, List.append_assoc]

theorem imageMarkup_none (setting : Setting) (content url : Text) (title : Option Text) :
    imageMarkup setting content url none title = unsizedFigure setting content url title :=
  imageMarkup_eq setting content url none title

theorem imageMarkup_some (setting : Setting) (content url : Text) (title : Option Text)
    {size : Image.Size} {ratio : Text} (known : size.ratioPercent? = some ratio) :
    imageMarkup setting content url (some size) title =
      sizedFigure setting content url title size ratio := by
  rw [imageMarkup_eq, Figure.renderPlaceholder?, known]
  rfl

/-! ### Lenient options -/

/-- What the imaging library gives for the file that a URL names. -/
def openingOf (setting : Setting) (url : Text) : Image.Opening :=
  setting.tools.openImage (Image.pathOf setting.options.baseDirectory url).toText

/-- Why an image fails although unreadable sizes are only warned about: its URL cannot be checked,
or it is probed, and the library cannot be examined or finds too many pixels. -/
def FailsWith (setting : Setting) (url : Text) (failure : Failure) : Prop :=
  (∃ number, Url.rejects setting.options.sanitize url = .error number ∧
    failure = .longNumber number) ∨
  IsProbed setting.options url ∧
    ((∃ problem, Image.examined setting.tools.installation = .error problem ∧
      (∀ lack, problem ≠ .lacking lack) ∧ failure = .escaped (.unexamined problem)) ∨
    Image.examined setting.tools.installation = .ok () ∧
      ∃ size, openingOf setting url = .oversized size ∧ failure = .escaped (.oversized size))

/-- Whether the size of an image cannot be read: the library is lacking, or it refuses the file. -/
def IsUnreadable (setting : Setting) (url : Text) : Prop :=
  (∃ lack, Image.examined setting.tools.installation = .error (.lacking lack)) ∨
    Image.examined setting.tools.installation = .ok () ∧
      ∃ error, openingOf setting url = .refused error

variable {setting : Setting} {url : Text}

theorem exists_cause_of_isUnreadable (unreadable : IsUnreadable setting url) :
    ∃ cause, probeUrl setting url = .error (.unreadable cause) := by
  rcases unreadable with ⟨lack, lacking⟩ | ⟨there, error, refused⟩
  · exact ⟨_, Image.probe_of_lacking lacking⟩
  · exact ⟨_, (Image.probe_of_examined there).trans (Image.readSize_of_refused refused)⟩

/-- What probing the image at a URL comes to when the library keeps its promises. -/
theorem probeUrl_cases (documented : Image.IsDocumented setting.tools.openImage) :
    IsUnreadable setting url ∨
      (∃ problem, Image.examined setting.tools.installation = .error problem ∧
        (∀ lack, problem ≠ .lacking lack) ∧
        probeUrl setting url = .error (.escaped (.unexamined problem))) ∨
      Image.examined setting.tools.installation = .ok () ∧
        ((∃ size, openingOf setting url = .oversized size ∧
            probeUrl setting url = .error (.escaped (.oversized size))) ∨
          ∃ size, openingOf setting url = .opened size ∧ probeUrl setting url = .ok size) := by
  cases examination : Image.examined setting.tools.installation with
  | error problem =>
    by_cases noLack : ∀ lack, problem ≠ .lacking lack
    · exact Or.inr (Or.inl ⟨problem, rfl, noLack, Image.probe_of_unexamined examination noLack⟩)
    · simp only [ne_eq, not_forall, not_not] at noLack
      obtain ⟨lack, rfl⟩ := noLack
      exact Or.inl (Or.inl ⟨lack, examination⟩)
  | ok there =>
    have reads : probeUrl setting url = Image.readSize setting.tools.openImage
        (Image.pathOf setting.options.baseDirectory url).toText :=
      Image.probe_of_examined examination
    cases opening : openingOf setting url with
    | opened size =>
      exact Or.inr (Or.inr ⟨rfl, Or.inr ⟨size, rfl,
        reads.trans (documented.readSize_of_opened opening)⟩⟩)
    | refused error => exact Or.inl (Or.inr ⟨examination, error, opening⟩)
    | oversized size =>
      exact Or.inr (Or.inr ⟨rfl, Or.inl ⟨size, rfl,
        reads.trans (Image.readSize_of_oversized opening)⟩⟩)
    | failed error => exact absurd opening documented.expected

/-! ### Outcomes -/

section

variable (content : Text) (title : Option Text) (state : RenderState)

/-- Where the library keeps its promises, an opened image is shown with its size. -/
theorem image_of_opened (documented : Image.IsDocumented setting.tools.openImage)
    (probed : IsProbed setting.options url)
    (there : Image.examined setting.tools.installation = .ok ()) {size : Image.Size}
    (opens : openingOf setting url = .opened size) :
    ∃ ratio, size.ratioPercent? = some ratio ∧
      image setting content url title state =
        ⟨.ok (sizedFigure setting content url title size ratio), [],
          (state.enter .image none).2⟩ := by
  obtain ⟨ratio, known⟩ := documented.exists_ratio opens
  have probing : probeUrl setting url = .ok size :=
    (Image.probe_of_examined there).trans (documented.readSize_of_opened opens)
  exact ⟨ratio, known, by
    rw [image_of_size content title state probed probing, imageMarkup_some _ _ _ _ known]⟩

/-- What an image fails with does not depend on how strict the options are. -/
theorem result_of_failsWith {failure : Failure} (fails : FailsWith setting url failure) :
    (image setting content url title state).result = .error failure := by
  rcases fails with ⟨number, long, rfl⟩ |
    ⟨probed, ⟨problem, fails, noLack, rfl⟩ | ⟨there, size, oversized, rfl⟩⟩
  · rw [image_of_longNumber content title state long]
  · rw [image_of_escaped content title state probed (Image.probe_of_unexamined fails noLack)]
  · have probing : probeUrl setting url = .error (.escaped (.oversized size)) :=
      (Image.probe_of_examined there).trans (Image.readSize_of_oversized oversized)
    rw [image_of_escaped content title state probed probing]

variable (lenient : setting.options.failOnResourceErrors = false)

include lenient

/-- An image of unreadable size is shown without a size and with one warning. -/
theorem image_of_isUnreadable (probed : IsProbed setting.options url)
    (unreadable : IsUnreadable setting url) :
    ∃ cause, image setting content url title state =
      ⟨.ok (unsizedFigure setting content url title), [.unreadableSize url cause],
        (state.enter .image none).2⟩ := by
  obtain ⟨cause, probing⟩ := exists_cause_of_isUnreadable unreadable
  refine ⟨cause, ?_⟩
  rw [image_of_unreadable content title state probed probing, lenient, imageMarkup_none]
  rfl

/-- Nothing else makes an image fail. -/
theorem failsWith_of_result (documented : Image.IsDocumented setting.tools.openImage)
    {failure : Failure} (failed : (image setting content url title state).result = .error failure) :
    FailsWith setting url failure := by
  rcases image_ways setting.options url with ⟨number, long⟩ | dropped | ⟨kept, video⟩ | probed
  · rw [image_of_longNumber content title state long] at failed
    cases failed
    exact Or.inl ⟨number, long, rfl⟩
  · rw [image_of_dropped content title state dropped] at failed
    cases failed
  · rw [image_of_video content title state kept video] at failed
    cases failed
  · refine Or.inr ⟨probed, ?_⟩
    rcases probeUrl_cases documented with unreadable | ⟨problem, fails, noLack, probing⟩ |
      ⟨there, ⟨size, oversized, probing⟩ | ⟨size, opens, probing⟩⟩
    · obtain ⟨cause, shown⟩ := image_of_isUnreadable content title state lenient probed unreadable
      rw [shown] at failed
      cases failed
    · rw [image_of_escaped content title state probed probing] at failed
      cases failed
      exact Or.inl ⟨problem, fails, noLack, rfl⟩
    · rw [image_of_escaped content title state probed probing] at failed
      cases failed
      exact Or.inr ⟨there, size, oversized, rfl⟩
    · rw [image_of_size content title state probed probing] at failed
      cases failed

end

/-- When unreadable sizes are only warned about and the imaging library keeps its promises,
rendering an image fails exactly if its URL cannot be checked, or its size is probed and the library
cannot be examined or finds too many pixels. A probed image of unreadable size is rendered without a
size and with one warning; one that is opened is rendered with its size, with room kept for it, and
without a warning. -/
theorem lenient_image_fails_iff (setting : Setting)
    (documented : Image.IsDocumented setting.tools.openImage)
    (lenient : setting.options.failOnResourceErrors = false) (state : RenderState)
    (content url : Text) (title : Option Text) :
    let outcome := (Call.image content url title).run setting state
    (∀ failure, outcome.result = .error failure ↔ FailsWith setting url failure) ∧
    (IsProbed setting.options url → IsUnreadable setting url →
      outcome.result = .ok (unsizedFigure setting content url title) ∧
        ∃ cause, outcome.warnings = [.unreadableSize url cause]) ∧
    (IsProbed setting.options url → Image.examined setting.tools.installation = .ok () →
      ∀ size, openingOf setting url = .opened size →
        ∃ ratio, size.ratioPercent? = some ratio ∧
          outcome.result = .ok (sizedFigure setting content url title size ratio) ∧
          outcome.warnings = []) := by
  intro outcome
  have rendered : outcome = image setting content url title state := rfl
  refine ⟨fun failure => ⟨?_, ?_⟩, fun probed unreadable => ?_, fun probed there size opens => ?_⟩
  · exact failsWith_of_result content title state lenient documented
  · exact result_of_failsWith content title state
  · obtain ⟨cause, shown⟩ := image_of_isUnreadable content title state lenient probed unreadable
    rw [rendered, shown]
    exact ⟨rfl, cause, rfl⟩
  · obtain ⟨ratio, known, shown⟩ :=
      image_of_opened content title state documented probed there opens
    rw [rendered, shown]
    exact ⟨ratio, known, rfl, rfl⟩

/-- A missing file costs the size. -/
theorem missing_image_costs_its_size :
    let setting : Setting := ⟨{}, .ofFiles []⟩
    let outcome := (Call.image "A".toList "gone.png".toList none).run setting (.fresh 1)
    Image.IsDocumented setting.tools.openImage ∧
      setting.options.failOnResourceErrors = false ∧
      IsProbed setting.options "gone.png".toList ∧ IsUnreadable setting "gone.png".toList ∧
      outcome.result = .ok ("\n<figure>\n<div class=\"image no-caption\">\n".toList ++
        "<div class=\"img\"><img alt=\"A\" src=\"gone.png\"></div>\n".toList ++
        "\n</div>\n</figure>\n".toList) ∧
      ∃ cause, outcome.warnings = [.unreadableSize "gone.png".toList cause] := by
  intro setting outcome
  have documented : Image.IsDocumented setting.tools.openImage := Image.isDocumented_openIn _
  have probed : IsProbed setting.options "gone.png".toList := ⟨rfl, by decide⟩
  have unreadable : IsUnreadable setting "gone.png".toList := Or.inr ⟨rfl, _, rfl⟩
  obtain ⟨result, warnings⟩ := (lenient_image_fails_iff setting documented rfl (.fresh 1)
    "A".toList "gone.png".toList none).2.1 probed unreadable
  exact ⟨documented, rfl, probed, unreadable, result.trans (congrArg Except.ok (by decide)),
    warnings⟩

/-- A small file that announces 20000 by 20000 pixels. -/
def vastFile : List UInt8 :=
  Image.asciiBytes "GIF89a".toList ++
    [0x20, 0x4E, 0x20, 0x4E, 0, 0, 0, 0x2C, 0, 0, 0, 0, 0x20, 0x4E, 0x20, 0x4E, 0, 2, 2, 0x44, 1, 0,
      0x3B]

/-- Rendering an image may fail although unreadable sizes are only warned about. -/
theorem lenient_image_may_fail :
    ¬ ∀ (setting : Setting), Image.IsDocumented setting.tools.openImage →
      setting.options.failOnResourceErrors = false →
      ∀ (state : RenderState) (content url : Text) (title : Option Text),
        ∃ html, ((Call.image content url title).run setting state).result = .ok html := by
  intro always
  let setting : Setting := ⟨{}, .ofFiles [("vast.gif".toList, .file vastFile)]⟩
  obtain ⟨html, done⟩ := always setting (Image.isDocumented_openIn _) rfl (.fresh 1) "big".toList
    "vast.gif".toList none
  have failed : ((Call.image "big".toList "vast.gif".toList none).run setting (.fresh 1)).result =
      .error (.escaped (.oversized ⟨20000, 20000⟩)) := rfl
  rw [failed] at done
  cases done

end Hook

end BookMarkup
