/-
This file renders images and videos as captioned figures. The size of an image is probed
so that the page can keep room for it; an image whose size cannot be read is rendered
without it, or fails, as the options say. An error that passes through the probing, and a
URL that cannot be checked, fail in any case.
-/

import BookMarkup.Figure.Caption
import BookMarkup.Figure.Markup
import BookMarkup.Hook.Inline
import BookMarkup.Html.Tag
import BookMarkup.Image.Location

namespace BookMarkup

namespace Hook

/-- The alternative text of an image: rendered text without its tags, in which joined words are
apart again. -/
def alternativeText (content : Text) : Text :=
  Html.escapeAttribute (Text.replaceAll noBreakSpace [' '] (Html.stripTags content))

/-- The caption that a title gives. -/
def captionMarkup (renderPlain : Text → Text) (caption : Figure.Caption) : Text :=
  if caption.text.isEmpty then []
  else
    "<figcaption>\n<p>".toList ++ Caption.render renderPlain (Html.autolink caption.text) ++
      "</p>".toList ++ Figure.renderCredit caption.credit ++ "\n</figcaption>\n".toList

/-- The classes of a figure: one for a missing caption and one for a small image. -/
def figureClasses (options : Options) (caption : Figure.Caption) (size : Option Image.Size) :
    List Text :=
  (if caption.text.isEmpty then ["no-caption".toList] else []) ++
    (if size.any fun known => known.width ≤ options.smallImageMaxWidth then ["small".toList] else [])

/-- The figure around a content for an image of a size that may be unknown. -/
def figureMarkup (setting : Setting) (content : Text) (size : Option Image.Size)
    (title : Option Text) : Text :=
  let caption := Figure.splitCredit (title.getD [])
  Figure.render content (figureClasses setting.options caption size)
    ((Figure.renderPlaceholder? size).getD []) (captionMarkup setting.tools.renderPlain caption)

/-- The figure of a video. -/
def videoMarkup (setting : Setting) (url : Text) (title : Option Text) : Text :=
  figureMarkup setting (Figure.renderVideo url) none title

/-- The figure of an image. -/
def imageMarkup (setting : Setting) (content url : Text) (size : Option Image.Size)
    (title : Option Text) : Text :=
  figureMarkup setting
    (Figure.renderImage (Html.escapeAttribute url) (alternativeText content) size
      setting.options.xhtml)
    size title

/-- The warnings about a video URL. -/
def videoWarnings (url : Text) : List Warning :=
  if (Video.id? url).isNone then [.videoWithoutId url] else []

/-- Probes the image at a URL. -/
def probeUrl (setting : Setting) (url : Text) : Except Image.ProbeFailure Image.Size :=
  Image.probe setting.tools.openImage setting.tools.installation
    (Image.pathOf setting.options.baseDirectory url).toText

/-- Renders an image or a video. -/
def image (setting : Setting) (content url : Text) (title : Option Text) : Render Text := fun state =>
  let options := setting.options
  let (marker, after) := state.enter .image none
  let done := fun (markup : Text) (warnings : List Warning) =>
    (⟨.ok (markerHtml marker ++ markup), warnings, after⟩ : Outcome Text)
  match Url.rejects options.sanitize url with
  | .error number => ⟨.error (.longNumber number), [], after⟩
  | .ok true => done (alternativeText content) [.unsafeSource url]
  | .ok false =>
    if Video.isEmbeddable url then done (videoMarkup setting url title) (videoWarnings url)
    else
      match probeUrl setting url with
      | .ok size => done (imageMarkup setting content url (some size) title) []
      | .error (.escaped error) => ⟨.error (.escaped error), [], after⟩
      | .error (.unreadable cause) =>
        if options.failOnResourceErrors then ⟨.error (.unreadableImage url cause), [], after⟩
        else done (imageMarkup setting content url none title) [.unreadableSize url cause]

end Hook

end BookMarkup
