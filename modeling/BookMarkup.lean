import BookMarkup.Document
import BookMarkup.Figure.Credit
import BookMarkup.Figure.Markup
import BookMarkup.Figure.Video
import BookMarkup.Footnote
import BookMarkup.Heading.Marker
import BookMarkup.Html.Autolink
import BookMarkup.Html.CharRef
import BookMarkup.Html.Escape
import BookMarkup.Html.Tag
import BookMarkup.Image.Location
import BookMarkup.Image.Probe
import BookMarkup.Image.Size
import BookMarkup.Listing.Markup
import BookMarkup.Markdown.BlockReader
import BookMarkup.Markdown.InlineReader
import BookMarkup.Options
import BookMarkup.Package.Guard
import BookMarkup.Proofs.Figure.Video
import BookMarkup.Proofs.Footnote.Interpolated
import BookMarkup.Proofs.Group.Nesting
import BookMarkup.Proofs.Heading.Numbering
import BookMarkup.Proofs.Hook.Alternative
import BookMarkup.Proofs.Hook.Caption
import BookMarkup.Proofs.Hook.Label
import BookMarkup.Proofs.Hook.Probed
import BookMarkup.Proofs.Hook.Sanitized
import BookMarkup.Proofs.Hook.Strictness
import BookMarkup.Proofs.Hook.Wrapped
import BookMarkup.Proofs.Html.EscapedForm
import BookMarkup.Proofs.Html.LinkEnd
import BookMarkup.Proofs.Html.Relink
import BookMarkup.Proofs.Html.Segment
import BookMarkup.Proofs.Listing.Category
import BookMarkup.Proofs.Listing.Crossing
import BookMarkup.Proofs.Listing.Difference
import BookMarkup.Proofs.Quote.Balance
import BookMarkup.Proofs.Quote.Citation
import BookMarkup.Proofs.Quote.Line
import BookMarkup.Proofs.Session.Paragraph
import BookMarkup.Proofs.Url.Spelling
import BookMarkup.Quote
import BookMarkup.RenderState
import BookMarkup.Text.Basic
import BookMarkup.Text.Blank
import BookMarkup.Text.Quoted
import BookMarkup.Text.Scan
import BookMarkup.Text.Widow
import BookMarkup.Text.Word
import BookMarkup.Tools.Known
import BookMarkup.Url.Clean
import BookMarkup.Url.Percent
import BookMarkup.Proofs.Storage.Path
import BookMarkup.Proofs.Url.Origin
import BookMarkup.Proofs.Image.Location
import BookMarkup.Proofs.Options.History
import BookMarkup.Proofs.Package.Offender
import BookMarkup.Proofs.Hook.Attribute
