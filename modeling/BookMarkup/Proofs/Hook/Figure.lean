/-
This file takes figures apart. A figure has a part in front of its content, a part between
its content and its caption, and the caption. The parts that the hook writes itself open
neither an image nor a footer: an image element stands in a figure only as its content, and
a footer only in a caption. What a caption holds is what its Markdown is rendered to, and
nothing is said about that.
-/

import BookMarkup.Proofs.Hook.Image
import BookMarkup.Proofs.Html.StartTag

namespace BookMarkup

namespace Hook

open Text

/-! ### Bare markup -/

/-- How image elements and footers start. -/
def richStarts : List Text :=
  ["<img".toList, "<footer>".toList]

/-- Whether a piece of markup opens no image and no footer, also not with what follows it. -/
def IsBare (piece : Text) : Prop :=
  ∀ start ∈ richStarts, IsFreeOf start piece

theorem IsBare.append {first second : Text} (left : IsBare first) (right : IsBare second) :
    IsBare (first ++ second) :=
  fun start rich => (left start rich).append (right start rich)

theorem isBare_of_no_tag {piece : Text} (noTag : '<' ∉ piece) : IsBare piece := by
  intro start rich
  rcases List.mem_pair.mp rich with rfl | rfl
  · exact isFreeOf_of_not_mem noTag
  · exact isFreeOf_of_not_mem noTag

theorem isBare_of_closed {piece : Text}
    (free : ∀ start ∈ richStarts, occursIn start piece = false)
    (closed : ∀ last ∈ piece.getLast?, ∀ start ∈ richStarts, last ∉ start.dropLast) :
    IsBare piece := by
  intro start rich
  have nonempty : start ≠ [] := by
    rintro rfl
    exact absurd rich (by decide)
  exact isFreeOf_of_closed nonempty (free start rich) fun last ends => closed last ends start rich

theorem IsBare.no_image {piece : Text} (bare : IsBare piece) : IsFreeOf "<img".toList piece :=
  bare _ List.mem_cons_self

theorem IsBare.no_footer {piece : Text} (bare : IsBare piece) : IsFreeOf "<footer>".toList piece :=
  bare _ (List.mem_cons_of_mem _ List.mem_cons_self)

/-! ### The parts of a figure -/

/-- What a figure writes in front of its content. -/
def figureStart (classes : List Text) : Text :=
  "\n<figure>\n<div class=\"".toList ++ join [' '] ("image".toList :: classes) ++ "\">\n".toList

/-- What a figure writes between its content and its caption. -/
def figureMiddle (size : Option Image.Size) : Text :=
  ['\n'] ++ (Figure.renderPlaceholder? size).getD [] ++ "\n</div>\n".toList

/-- The caption of a figure with all that follows it. -/
def figureEnd (setting : Setting) (title : Option Text) : Text :=
  captionMarkup setting.tools.renderPlain (Figure.splitCredit (title.getD [])) ++
    "</figure>\n".toList

theorem figureMarkup_eq (setting : Setting) (content : Text) (size : Option Image.Size)
    (title : Option Text) :
    figureMarkup setting content size title =
      figureStart (figureClasses setting.options (Figure.splitCredit (title.getD [])) size) ++
        content ++ figureMiddle size ++ figureEnd setting title := by
  unfold figureMarkup Figure.render figureStart figureMiddle figureEnd
  simp only [List.append_assoc]

theorem isBare_figureStart (options : Options) (caption : Figure.Caption)
    (size : Option Image.Size) : IsBare (figureStart (figureClasses options caption size)) := by
  have plainClasses : '<' ∉ join [' '] ("image".toList :: figureClasses options caption size) := by
    unfold figureClasses
    split_ifs <;> decide
  refine .append (.append ?_ ?_) ?_
  · exact isBare_of_closed (by decide) (by decide)
  · exact isBare_of_no_tag plainClasses
  · exact isBare_of_no_tag (by decide)

theorem no_tag_of_mem_toFixed {places : Nat} {number : Number.Binary64} :
    '<' ∉ number.toFixed places := by
  intro member
  have digits {value : Nat} : '<' ∉ Text.ofNat value := fun member =>
    absurd (isDigit_of_mem_ofNat member) (by decide)
  unfold Number.Binary64.toFixed at member
  split_ifs at member
  · exact absurd member (by decide)
  · simp only [List.mem_append, List.mem_replicate, List.mem_singleton] at member
    rcases member with ((whole | dot) | zeros) | fraction
    · exact digits whole
    · exact absurd dot (by decide)
    · exact absurd zeros.2 (by decide)
    · exact digits fraction

theorem no_tag_of_ratioPercent? {size : Image.Size} {ratio : Text}
    (known : size.ratioPercent? = some ratio) : '<' ∉ ratio := by
  unfold Image.Size.ratioPercent? at known
  by_cases noWidth : size.width = 0
  · rw [if_pos noWidth] at known
    cases known
  · rw [if_neg noWidth] at known
    rw [← Option.some.inj known]
    refine List.not_mem_append ?_ no_tag_of_mem_toFixed
    split_ifs <;> decide

theorem isBare_renderPlaceholder? (size : Option Image.Size) :
    IsBare ((Figure.renderPlaceholder? size).getD []) := by
  have nothing : IsBare [] := isBare_of_no_tag List.not_mem_nil
  cases size with
  | none => exact nothing
  | some size =>
    rw [Figure.renderPlaceholder?]
    cases known : size.ratioPercent? with
    | none => exact nothing
    | some ratio =>
      refine .append (.append ?_ ?_) ?_
      · exact isBare_of_closed (by decide) (by decide)
      · exact isBare_of_no_tag (no_tag_of_ratioPercent? known)
      · exact isBare_of_closed (by decide) (by decide)

theorem isBare_figureMiddle (size : Option Image.Size) : IsBare (figureMiddle size) := by
  refine .append (.append ?_ (isBare_renderPlaceholder? size)) ?_
  · exact isBare_of_no_tag (by decide)
  · exact isBare_of_closed (by decide) (by decide)

/-! ### Players -/

theorem isBare_renderPlayer (id : Text) : IsBare (Figure.renderPlayer id) := by
  unfold Figure.renderPlayer Figure.playerAddress
  refine .append (.append (.append (.append ?_ (.append ?_ ?_)) ?_) ?_) ?_
  · exact isBare_of_closed (by decide) (by decide)
  · exact isBare_of_no_tag (by decide)
  · exact isBare_of_no_tag (Html.isSealed_escapeAttribute id).2.1
  · exact isBare_of_no_tag (by decide)
  · exact isBare_of_closed (by decide) (by decide)
  · exact isBare_of_closed (by decide) (by decide)

/-- The figure of a video opens no image and no footer in front of its caption. -/
theorem videoMarkup_shape (setting : Setting) (url : Text) (title : Option Text) :
    ∃ front, IsBare front ∧ videoMarkup setting url title = front ++ figureEnd setting title :=
  ⟨_, ((isBare_figureStart _ _ _).append (isBare_renderPlayer _)).append (isBare_figureMiddle _),
    figureMarkup_eq setting (Figure.renderVideo url) none title⟩

/-! ### Images -/

theorem isBare_sizeAttributes (size : Option Image.Size) :
    IsBare (Figure.sizeAttributes size) := by
  have numeral (number : Int) : '<' ∉ Text.ofInt number := fun member =>
    absurd (Html.not_reserved_of_mem_ofInt member) (by decide)
  cases size with
  | none => exact isBare_of_no_tag List.not_mem_nil
  | some size =>
    unfold Figure.sizeAttributes
    refine .append (.append (.append (.append ?_ ?_) ?_) ?_) ?_
    · exact isBare_of_no_tag (by decide)
    · exact isBare_of_no_tag (numeral size.width)
    · exact isBare_of_no_tag (by decide)
    · exact isBare_of_no_tag (numeral size.height)
    · exact isBare_of_no_tag (by decide)

/-- What stands behind the source of an image, up to the end of its box. -/
def imageEnd (size : Option Image.Size) (xhtml : Bool) : Text :=
  Figure.sizeAttributes size ++ (if xhtml then " /".toList else []) ++ "></div>".toList

theorem isBare_imageEnd (size : Option Image.Size) (xhtml : Bool) :
    IsBare (imageEnd size xhtml) := by
  refine .append (.append (isBare_sizeAttributes size) ?_) ?_
  · cases xhtml <;> exact isBare_of_no_tag (by decide)
  · exact isBare_of_closed (by decide) (by decide)

theorem renderImage_eq (source alternative : Text) (size : Option Image.Size) (xhtml : Bool) :
    Figure.renderImage source alternative size xhtml =
      "<div class=\"img\">".toList ++ "<img alt=\"".toList ++ alternative ++ "\" src=\"".toList ++
        source ++ ['"'] ++ imageEnd size xhtml := by
  have opening : "<div class=\"img\"><img alt=\"".toList =
      "<div class=\"img\">".toList ++ "<img alt=\"".toList := by decide
  unfold Figure.renderImage imageEnd
  rw [opening]
  simp only [List.append_assoc]

/-- What an image writes in front of its element. -/
def imageStart : Text :=
  "<div class=\"img\">".toList

theorem imageMarkup_parts (setting : Setting) (content url : Text) (size : Option Image.Size)
    (title : Option Text) :
    imageMarkup setting content url size title =
      figureStart (figureClasses setting.options (Figure.splitCredit (title.getD [])) size) ++
        imageStart ++ "<img alt=\"".toList ++ alternativeText content ++ "\" src=\"".toList ++
        Html.escapeAttribute url ++ ['"'] ++
        (imageEnd size setting.options.xhtml ++ figureMiddle size) ++ figureEnd setting title := by
  unfold imageMarkup imageStart
  rw [figureMarkup_eq, renderImage_eq]
  simp only [List.append_assoc]

theorem isBare_imageStart (options : Options) (caption : Figure.Caption)
    (size : Option Image.Size) :
    IsBare (figureStart (figureClasses options caption size) ++ imageStart) :=
  (isBare_figureStart options caption size).append (isBare_of_closed (by decide) (by decide))

/-- The figure of an image has one image element in front of its caption, with the escaped
alternative text and the escaped source. -/
theorem imageMarkup_shape (setting : Setting) (content url : Text) (size : Option Image.Size)
    (title : Option Text) :
    ∃ front rest, IsBare front ∧ IsBare rest ∧
      imageMarkup setting content url size title =
        front ++ "<img alt=\"".toList ++ alternativeText content ++ "\" src=\"".toList ++
          Html.escapeAttribute url ++ ['"'] ++ rest ++ figureEnd setting title :=
  ⟨_, _, isBare_imageStart setting.options _ size,
    (isBare_imageEnd size setting.options.xhtml).append (isBare_figureMiddle size),
    imageMarkup_parts setting content url size title⟩

/-- An image holds no footer. -/
theorem isFreeOf_footer_renderImage {source alternative : Text} (noSource : '<' ∉ source)
    (noAlternative : '<' ∉ alternative) (size : Option Image.Size) (xhtml : Bool) :
    IsFreeOf "<footer>".toList (Figure.renderImage source alternative size xhtml) := by
  rw [renderImage_eq]
  have nonempty : "<footer>".toList ≠ [] := by decide
  refine .append (.append (.append (.append (.append (.append ?_ ?_) ?_) ?_) ?_) ?_) ?_
  · exact isFreeOf_of_closed nonempty (by decide) (by decide)
  · exact isFreeOf_of_closed nonempty (by decide) (by decide)
  · exact isFreeOf_of_not_mem noAlternative
  · exact isFreeOf_of_not_mem (by decide)
  · exact isFreeOf_of_not_mem noSource
  · exact isFreeOf_of_not_mem (by decide)
  · exact (isBare_imageEnd size xhtml).no_footer

end Hook

end BookMarkup
