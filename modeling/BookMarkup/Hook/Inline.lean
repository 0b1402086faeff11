/-
This file renders the inline constructs of a document. Inline constructs are no blocks,
so entering them emits no group marker and changes only which construct was last. A link
fails, behind entering its construct, when its target cannot be checked.
-/

import BookMarkup.Hook.Block
import BookMarkup.Hook.Outcome
import BookMarkup.Text.Widow

namespace BookMarkup

namespace Hook

/-- The markup of a run of text: it is escaped, its last two words are joined, and its footnote
marks are linked. -/
def textMarkup (source : Text) : Text :=
  Footnote.interpolateMarks (Text.joinLastWords (Html.escapeContent source))

/-- Renders a run of text. -/
def text (state : RenderState) (source : Text) : Text × RenderState :=
  emit state .text (textMarkup source)

/-- Renders emphasised content. -/
def emphasis (state : RenderState) (content : Text) : Text × RenderState :=
  emit state .emphasis ("<em>".toList ++ content ++ "</em>".toList)

/-- Renders strongly emphasised content. -/
def strong (state : RenderState) (content : Text) : Text × RenderState :=
  emit state .strong ("<strong>".toList ++ content ++ "</strong>".toList)

/-- Renders struck-out content. -/
def strikethrough (state : RenderState) (content : Text) : Text × RenderState :=
  emit state .deleted ("<del>".toList ++ content ++ "</del>".toList)

/-- Renders code in running text. -/
def codeSpan (state : RenderState) (source : Text) : Text × RenderState :=
  emit state .codeSpan ("<code>".toList ++ Html.escapeAll source ++ "</code>".toList)

/-- Renders a line break. -/
def lineBreak (state : RenderState) (xhtml : Bool) : Text × RenderState :=
  emit state .lineBreak ("<br".toList ++ voidEnd xhtml ++ ">\n".toList)

/-- Renders a raw tag. -/
def inlineHtml (state : RenderState) (source : Text) : Text × RenderState :=
  emit state .inlineHtml source

/-- The title attribute of a link. -/
def titleAttribute : Option Text → Text
  | none | some [] => []
  | some title => " title=\"".toList ++ Html.escapeAttribute title ++ ['"']

/-- The content of a link to a cleaned target. The content of a link with a rejected target stands
alone. -/
def anchor (content : Text) (title : Option Text) : Option Text → Text
  | none => content
  | some target =>
    "<a href=\"".toList ++ Html.escapeAttribute target ++ ['"'] ++ titleAttribute title ++ ['>'] ++
      content ++ "</a>".toList

/-- The markup of a link. Content that holds an embedded player is passed through, and its target
is not looked at. -/
def linkMarkup (content : Text) (title : Option Text)
    (cleaned : Except CharRef.LongNumber (Option Text)) : Except CharRef.LongNumber Text :=
  if Text.occursIn "iframe".toList content then .ok content else cleaned.map (anchor content title)

/-- Enters a construct and puts its group marker in front of markup that may fail to arise. -/
def attempt (construct : Construct) (markup : Except CharRef.LongNumber Text) : Render Text :=
  fun state =>
    let (marker, after) := state.enter construct none
    match markup with
    | .ok content => ⟨.ok (markerHtml marker ++ content), [], after⟩
    | .error number => ⟨.error (.longNumber number), [], after⟩

/-- Renders a link. -/
def link (options : Options) (content url : Text) (title : Option Text) : Render Text :=
  attempt .link (linkMarkup content title (Url.clean options.sanitize options.baseUrl url))

/-- Renders a link to a target that may hold surrogates. -/
def linkCodePoints (options : Options) (content : Text) (points : List Url.CodePoint)
    (title : Option Text) : Render Text :=
  attempt .link
    (linkMarkup content title (Url.cleanCodePoints options.sanitize options.baseUrl points))

end Hook

end BookMarkup
