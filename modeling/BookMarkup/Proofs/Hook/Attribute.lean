/-
This file proves that nothing an author writes breaks out of the attribute it stands in.
Targets, titles, alternative texts, sources and the names of languages are escaped, each
after other changes, so none of them holds a quote or a bracket. A browser that reads the
tag of a link, an image, a player or a listing therefore finds the attributes that the
hook wrote, with the values it wrote, and goes on behind the bracket that the hook wrote.
-/

import BookMarkup.Proofs.Hook.Figure
import BookMarkup.Proofs.Hook.Link
import BookMarkup.Proofs.Listing.Source

namespace BookMarkup

namespace Hook

open Html

/-! ### The tags that hooks write -/

/-- The tag of a link. An empty title is none. -/
def linkTag (target : Text) (title : Option Text) : StartTag :=
  let titled := match title with
    | none | some [] => []
    | some title => [("title".toList, some (escapeAttribute title))]
  ⟨"a".toList, ("href".toList, some (escapeAttribute target)) :: titled, false⟩

/-- The tag of an image. -/
def imageTag (content url : Text) (size : Option Image.Size) (xhtml : Bool) : StartTag :=
  let sized := match size with
    | none => []
    | some size =>
      [("width".toList, some (Text.ofInt size.width)),
        ("height".toList, some (Text.ofInt size.height)), ("loading".toList, some "lazy".toList)]
  ⟨"img".toList,
    ("alt".toList, some (alternativeText content)) :: ("src".toList, some (escapeAttribute url)) ::
      sized,
    xhtml⟩

/-- What a player may do. -/
def permissions : Text :=
  "accelerometer; autoplay; encrypted-media; gyroscope; picture-in-picture".toList

/-- The tag of the player of a video URL. -/
def playerTag (url : Text) : StartTag :=
  ⟨"iframe".toList,
    [("src".toList, some (Figure.playerAddress ((Video.id? url).getD []))),
      ("frameborder".toList, some "0".toList),
      ("allow".toList, some permissions),
      ("allowfullscreen".toList, none)],
    false⟩

/-- The tag of a listing in a language. -/
def listingTag (language : Text) : StartTag :=
  let classes := if language.isEmpty then "code".toList
    else "code code-".toList ++ escapeAll language
  ⟨"div".toList, [("class".toList, some classes)], false⟩

/-! ### Links -/

theorem isSealed_linkTag (target : Text) (title : Option Text) :
    (linkTag target title).IsSealed := by
  intro entry member value valued
  rcases List.mem_cons.mp member with rfl | titled
  · cases valued
    exact isSealed_escapeAttribute target
  · rcases title with _ | _ | ⟨first, others⟩
    · cases titled
    · cases titled
    · cases List.mem_singleton.mp titled
      cases valued
      exact isSealed_escapeAttribute _

/-- A browser finds in the tag of a link its target and its title. -/
theorem readTag?_link (target : Text) (title : Option Text) (rest : Text) :
    readTag? ("<a href=\"".toList ++ escapeAttribute target ++ ['"'] ++ titleAttribute title ++
        ['>'] ++ rest) = some (linkTag target title, rest) := by
  have spelled : "<a href=\"".toList ++ escapeAttribute target ++ ['"'] ++ titleAttribute title ++
      ['>'] ++ rest = "<a ".toList ++ (writeAttribute "href".toList (escapeAttribute target) ++
        (titleAttribute title ++ '>' :: rest)) := by
    simp [writeAttribute]
  have opening (rest : Text) : readTag? ("<a ".toList ++ rest) =
      readTagFrom ⟨"a".toList, [], false⟩ .gap rest := rfl
  rw [spelled, opening, readTagFrom_written (by decide) (by decide)
    (quote_not_mem_escapeAttribute target)]
  rcases title with _ | _ | ⟨first, others⟩
  · exact readTagFrom_bracket _ rest
  · exact readTagFrom_bracket _ rest
  · have titled : titleAttribute (some (first :: others)) =
        [' '] ++ writeAttribute "title".toList (escapeAttribute (first :: others)) := rfl
    rw [titled, List.append_assoc, readTagFrom_blanks (by decide),
      readTagFrom_written (by decide) (by decide) (quote_not_mem_escapeAttribute _)]
    exact readTagFrom_bracket _ rest

/-- Content that points to an address opens with the tag of its link. -/
theorem opens_pointTo (content target : Text) (title : Option Text) :
    Opens (linkTag target title) (pointTo content target title) (content ++ "</a>".toList) := by
  refine ⟨isSealed_linkTag target title, [], _, rfl, rfl, ?_⟩
  have spelled := readTag?_link target title (content ++ "</a>".toList)
  rwa [titleAttribute_eq, ← List.append_assoc] at spelled

/-! ### Images -/

theorem isSealed_imageTag (content url : Text) (size : Option Image.Size) (xhtml : Bool) :
    (imageTag content url size xhtml).IsSealed := by
  have numeral (number : Int) := isSealed_of_not_reserved fun c (member : c ∈ Text.ofInt number) =>
    not_reserved_of_mem_ofInt member
  intro entry member value valued
  rcases List.mem_cons.mp member with rfl | member
  · cases valued
    exact isSealed_escapeAttribute _
  rcases List.mem_cons.mp member with rfl | sized
  · cases valued
    exact isSealed_escapeAttribute url
  cases size with
  | none => cases sized
  | some size =>
    simp only [List.mem_cons, List.not_mem_nil, or_false] at sized
    rcases sized with rfl | rfl | rfl <;> cases valued
    · exact numeral size.width
    · exact numeral size.height
    · decide

/-- A browser finds in the tag of an image its alternative text, its source and its size. -/
theorem readTag?_image (content url : Text) (size : Option Image.Size) (xhtml : Bool)
    (rest : Text) :
    readTag? ("<img alt=\"".toList ++ alternativeText content ++ "\" src=\"".toList ++
        escapeAttribute url ++ ['"'] ++ (Figure.sizeAttributes size ++
          (if xhtml then " /".toList else []) ++ ['>'] ++ rest)) =
      some (imageTag content url size xhtml, rest) := by
  have spelled (behind : Text) : "<img alt=\"".toList ++ alternativeText content ++
      "\" src=\"".toList ++ escapeAttribute url ++ ['"'] ++ behind =
        "<img ".toList ++ (writeAttribute "alt".toList (alternativeText content) ++
          ([' '] ++ (writeAttribute "src".toList (escapeAttribute url) ++ behind))) := by
    simp [writeAttribute]
  have opening (rest : Text) : readTag? ("<img ".toList ++ rest) =
      readTagFrom ⟨"img".toList, [], false⟩ .gap rest := rfl
  have ending (name : Text) (attributes : List (Text × Option Text)) :
      readTagFrom ⟨name, attributes, false⟩ .gap
        ((if xhtml then " /".toList else []) ++ '>' :: rest) =
          some (⟨name, attributes, xhtml⟩, rest) := by
    cases xhtml
    · exact readTagFrom_bracket _ rest
    · exact readTagFrom_void _ rest
  have alternative : '"' ∉ alternativeText content := quote_not_mem_escapeAttribute _
  have source := quote_not_mem_escapeAttribute url
  rw [spelled, opening, readTagFrom_written (by decide) (by decide) alternative,
    readTagFrom_blanks (by decide), readTagFrom_written (by decide) (by decide) source]
  simp only [List.append_assoc, List.singleton_append]
  cases size with
  | none => exact ending _ _
  | some size =>
    have sized : Figure.sizeAttributes (some size) = " width=\"".toList ++ Text.ofInt size.width ++
        "\" height=\"".toList ++ Text.ofInt size.height ++ "\" loading=\"lazy\"".toList := rfl
    have written (behind : Text) : Figure.sizeAttributes (some size) ++ behind =
        [' '] ++ (writeAttribute "width".toList (Text.ofInt size.width) ++
          ([' '] ++ (writeAttribute "height".toList (Text.ofInt size.height) ++
            ([' '] ++ (writeAttribute "loading".toList "lazy".toList ++ behind))))) := by
      simp [sized, writeAttribute]
    have numeral (number : Int) : '"' ∉ Text.ofInt number := fun member =>
      absurd (not_reserved_of_mem_ofInt member) (by decide)
    rw [written, readTagFrom_blanks (by decide),
      readTagFrom_written (by decide) (by decide) (numeral _), readTagFrom_blanks (by decide),
      readTagFrom_written (by decide) (by decide) (numeral _), readTagFrom_blanks (by decide),
      readTagFrom_written (by decide) (by decide) (by decide)]
    exact ending _ _

/-- The first image element of the figure of an image has its tag. -/
theorem opens_imageMarkup (setting : Setting) (content url : Text) (size : Option Image.Size)
    (title : Option Text) :
    ∃ behind, Opens (imageTag content url size setting.options.xhtml)
      (imageMarkup setting content url size title) behind := by
  have ending : "></div>".toList = ['>'] ++ "</div>".toList := rfl
  have first := (isBare_imageStart setting.options (Figure.splitCredit (title.getD []))
    size).no_image.occursIn_eq_false (by decide)
  refine ⟨_, isSealed_imageTag content url size setting.options.xhtml, _, _, ?_, first,
    readTag?_image content url size setting.options.xhtml
      ("</div>".toList ++ (figureMiddle size ++ figureEnd setting title))⟩
  rw [imageMarkup_parts, imageEnd, ending]
  simp only [List.append_assoc]

/-! ### Videos -/

theorem isSealed_playerTag (url : Text) : (playerTag url).IsSealed := by
  intro entry member value valued
  rcases List.mem_cons.mp member with rfl | member
  · cases valued
    refine isSealed_of_not_reserved fun c member => ?_
    rcases List.mem_append.mp member with prefixed | escaped
    · exact (by decide : ∀ c ∈ "https://www.youtube.com/embed/".toList,
        isReservedInAttribute c = false) c prefixed
    · exact not_reserved_of_mem_escapeAttribute escaped
  · simp only [List.mem_cons, List.not_mem_nil, or_false] at member
    rcases member with rfl | rfl | rfl <;> cases valued <;> decide

/-- What a player writes for its start tag. -/
def writtenPlayer (address : Text) : Text :=
  "<iframe".toList ++ ("\n  ".toList ++ (writeAttribute "src".toList address ++
    ("\n  ".toList ++ (writeAttribute "frameborder".toList "0".toList ++
      ("\n  ".toList ++ (writeAttribute "allow".toList permissions ++
        ("\n  ".toList ++ ("allowfullscreen".toList ++ "\n>".toList))))))))

/-- A browser finds in the tag of a player the address of the video. -/
theorem readTag?_player (url rest : Text) :
    readTag? (writtenPlayer (Figure.playerAddress ((Video.id? url).getD [])) ++ rest) =
      some (playerTag url, rest) := by
  have opening (rest : Text) : readTag? ("<iframe".toList ++ ("\n  ".toList ++ rest)) =
      readTagFrom ⟨"iframe".toList, [], false⟩ .gap rest := rfl
  have closing (tag : StartTag) (name : Text) :
      readTagFrom tag (.name name) ("\n>".toList ++ rest) = some (tag.add name none, rest) :=
    readTagFrom_closed _ rest
  have sealed := (isSealed_playerTag url _ List.mem_cons_self _ rfl).1
  unfold writtenPlayer
  simp only [List.append_assoc]
  rw [opening, readTagFrom_written (by decide) (by decide) sealed,
    readTagFrom_blanks (by decide), readTagFrom_written (by decide) (by decide) (by decide),
    readTagFrom_blanks (by decide), readTagFrom_written (by decide) (by decide) (by decide),
    readTagFrom_blanks (by decide), readTagFrom_name (by decide) (by decide), closing]
  rfl

theorem renderPlayer_eq (id : Text) :
    Figure.renderPlayer id =
      "<div class=\"iframe\">\n".toList ++ writtenPlayer (Figure.playerAddress id) ++
        ("</iframe>\n".toList ++
          "<div class=\"ratio\" style=\"padding-top: 56.25%;\"></div>\n</div>".toList) := by
  have opening : "<div class=\"iframe\">\n<iframe\n  src=\"".toList =
      "<div class=\"iframe\">\n".toList ++ ("<iframe".toList ++ ("\n  ".toList ++
        ("src".toList ++ "=\"".toList))) := by decide
  have framed :
      "\"\n  frameborder=\"0\"\n  allow=\"accelerometer; autoplay; encrypted-media; ".toList ++
        "gyroscope; picture-in-picture\"\n  allowfullscreen\n></iframe>\n".toList =
        ['"'] ++ ("\n  ".toList ++ (writeAttribute "frameborder".toList "0".toList ++
          ("\n  ".toList ++ (writeAttribute "allow".toList permissions ++
            ("\n  ".toList ++ ("allowfullscreen".toList ++ ("\n>".toList ++
              "</iframe>\n".toList))))))) := by
    decide +kernel
  have player : Figure.renderPlayer id =
      "<div class=\"iframe\">\n<iframe\n  src=\"".toList ++ Figure.playerAddress id ++
        ("\"\n  frameborder=\"0\"\n  allow=\"accelerometer; autoplay; encrypted-media; ".toList ++
          "gyroscope; picture-in-picture\"\n  allowfullscreen\n></iframe>\n".toList) ++
        "<div class=\"ratio\" style=\"padding-top: 56.25%;\"></div>\n</div>".toList := by
    unfold Figure.renderPlayer
    simp only [List.append_assoc]
  rw [player, opening, framed]
  unfold writtenPlayer
  have source : writeAttribute "src".toList (Figure.playerAddress id) =
      "src".toList ++ "=\"".toList ++ Figure.playerAddress id ++ ['"'] := rfl
  rw [source]
  simp only [List.append_assoc]

/-- The first player in the figure of a video has its tag. -/
theorem opens_videoMarkup (setting : Setting) (url : Text) (title : Option Text) :
    ∃ behind, Opens (playerTag url) (videoMarkup setting url title) behind := by
  let caption := Figure.splitCredit (title.getD [])
  let front := figureStart (figureClasses setting.options caption none) ++
    "<div class=\"iframe\">\n".toList
  let behind := ("</iframe>\n".toList ++
      "<div class=\"ratio\" style=\"padding-top: 56.25%;\"></div>\n</div>".toList) ++
    (figureMiddle none ++ figureEnd setting title)
  have noPlayer : Text.occursIn ('<' :: "iframe".toList) front = false := by
    simp only [front]
    unfold figureClasses
    split_ifs <;> decide
  have spelled : videoMarkup setting url title =
      front ++ (writtenPlayer (Figure.playerAddress ((Video.id? url).getD [])) ++ behind) := by
    unfold videoMarkup Figure.renderVideo
    rw [figureMarkup_eq, renderPlayer_eq]
    simp only [List.append_assoc, front, behind]
    rfl
  exact ⟨behind, isSealed_playerTag url, front, _, spelled, noPlayer, readTag?_player url behind⟩

/-! ### Listings -/

theorem isSealed_listingTag (language : Text) : (listingTag language).IsSealed := by
  intro entry member value valued
  cases List.mem_singleton.mp member
  cases valued
  refine isSealed_of_not_reserved fun c member => ?_
  have plain (classes : Text) (free : ∀ c ∈ classes, isReservedInAttribute c = false)
      (inside : c ∈ classes) : isReservedInAttribute c = false := free c inside
  split_ifs at member with unnamed
  · exact plain _ (by decide) member
  · rcases List.mem_append.mp member with prefixed | escaped
    · exact plain _ (by decide) prefixed
    · exact not_reserved_of_mem_escapeAll escaped

/-- A browser finds in the tag of a listing its classes. -/
theorem readTag?_listing {classes : Text} (sealed : '"' ∉ classes) (rest : Text) :
    readTag? ("<div class=\"".toList ++ (classes ++ (['"', '>'] ++ rest))) =
      some (⟨"div".toList, [("class".toList, some classes)], false⟩, rest) := by
  have spelled : "<div class=\"".toList ++ (classes ++ (['"', '>'] ++ rest)) =
      "<div ".toList ++ (writeAttribute "class".toList classes ++ '>' :: rest) := by
    simp [writeAttribute]
  have opening (rest : Text) : readTag? ("<div ".toList ++ rest) =
      readTagFrom ⟨"div".toList, [], false⟩ .gap rest := rfl
  rw [spelled, opening, readTagFrom_written (by decide) (by decide) sealed]
  exact readTagFrom_bracket _ rest

/-- A listing starts with its tag. -/
theorem readTag?_render (lexers : Listing.Lexers) (tabReplacement : Text) (info : Option Text)
    (code : Text) :
    ∃ behind, readTag? (Listing.render lexers tabReplacement info code) =
      some (listingTag (Listing.languageOf info), behind) := by
  by_cases unnamed : Listing.languageOf info = []
  · have spelled : "<div class=\"code\"><pre>".toList =
        "<div class=\"".toList ++ ("code".toList ++ (['"', '>'] ++ "<pre>".toList)) := by decide
    have plain : Listing.render lexers tabReplacement info code = Listing.renderPlain code := by
      unfold Listing.render
      rw [unnamed]
      rfl
    rw [unnamed, plain]
    unfold Listing.renderPlain
    rw [spelled]
    simp only [List.append_assoc]
    exact ⟨_, readTag?_listing (by decide) _⟩
  by_cases ascii : Listing.languageOf info = "ascii".toList
  · have spelled : "<div class=\"code code-ascii\"><pre>".toList =
        "<div class=\"".toList ++ ("code code-ascii".toList ++ (['"', '>'] ++ "<pre>".toList)) := by
      decide
    have art : Listing.render lexers tabReplacement info code = Listing.renderAsciiArt code := by
      unfold Listing.render
      rw [ascii]
      rfl
    rw [ascii, art]
    unfold Listing.renderAsciiArt
    rw [spelled]
    simp only [List.append_assoc]
    exact ⟨_, readTag?_listing (by decide) _⟩
  · have classes : listingTag (Listing.languageOf info) = ⟨"div".toList, [("class".toList,
        some ("code code-".toList ++ escapeAll (Listing.languageOf info)))], false⟩ := by
      simp only [listingTag, List.isEmpty_iff, unnamed, if_false]
    have sealed := (isSealed_listingTag (Listing.languageOf info)
      ("class".toList, _) (by rw [classes]; exact List.mem_cons_self) _ rfl).1
    have opening : "<div class=\"code code-".toList =
        "<div class=\"".toList ++ "code code-".toList := by decide
    have ending : "\">\n<table class=\"code-table\">\n".toList =
        ['"', '>'] ++ "\n<table class=\"code-table\">\n".toList := by decide
    have spelled (rest : Text) : Listing.tableStart (Listing.languageOf info) ++ rest =
        "<div class=\"".toList ++ (("code code-".toList ++ escapeAll (Listing.languageOf info)) ++
          (['"', '>'] ++ ("\n<table class=\"code-table\">\n".toList ++ rest))) := by
      unfold Listing.tableStart
      rw [opening, ending]
      simp only [List.append_assoc]
    rw [Listing.render_eq_table unnamed ascii, spelled, classes]
    exact ⟨_, readTag?_listing sealed _⟩

/-! ### All attributes -/

/-- What authors write does not break out of the attribute it stands in. A link whose target can be
checked is its content alone or opens with a tag that has the target, and the title if there is
one, and nothing else; an image that is rendered is its alternative text alone, a player or an image
with the attributes that the hook wrote; and a listing opens with a tag that has its classes only.
No value in these tags holds a double quote or an angle bracket. -/
theorem tags_have_their_own_attributes (setting : Setting) (state : RenderState) :
    (∀ content url title,
      let cleaned := Url.clean setting.options.sanitize setting.options.baseUrl url
      let result := ((Call.link content url title).run setting state).result
      (∃ number, cleaned = .error number ∧ result = .error (.longNumber number)) ∨
      ∃ html, result = .ok html ∧
        ((Text.occursIn "iframe".toList content = true ∨ cleaned = .ok none) ∧ html = content ∨
        ∃ target, cleaned = .ok (some target) ∧
          Opens (linkTag target title) html (content ++ "</a>".toList))) ∧
    (∀ content url title html,
      ((Call.image content url title).run setting state).result = .ok html →
        Url.rejects setting.options.sanitize url = .ok true ∧ html = alternativeText content ∨
        Video.isEmbeddable url = true ∧ (∃ behind, Opens (playerTag url) html behind) ∨
        ∃ behind, Opens (imageTag content url (probeUrl setting url).toOption
          setting.options.xhtml) html behind) ∧
    ∀ source info, ∃ html behind,
      ((Call.code source info).run setting state).result = .ok html ∧
      Opens (listingTag (Listing.languageOf info)) html behind := by
  refine ⟨fun content url title => ?_, fun content url title html rendered => ?_,
    fun source info => ?_⟩
  · intro cleaned result
    have link : result = _ := result_attempt_link (linkMarkup content title cleaned) state
    by_cases player : "iframe".toList <:+: content
    · rw [linkMarkup_of_player player] at link
      exact Or.inr ⟨content, link, Or.inl ⟨Or.inl (holdsPlayer_iff.mpr player), rfl⟩⟩
    · rcases kept : cleaned with number | (_ | target)
      · rw [kept, linkMarkup_of_long player] at link
        exact Or.inl ⟨number, rfl, link⟩
      · rw [kept, linkMarkup_of_rejected] at link
        exact Or.inr ⟨content, link, Or.inl ⟨Or.inr rfl, rfl⟩⟩
      · rw [kept, linkMarkup_of_kept player] at link
        exact Or.inr ⟨_, link, Or.inr ⟨target, rfl, opens_pointTo content target title⟩⟩
  · have run : (image setting content url title state).result = .ok html := rendered
    rcases image_ways setting.options url with ⟨number, long⟩ | dropped | ⟨kept, video⟩ | probed
    · rw [image_of_longNumber content title state long] at run
      cases run
    · rw [image_of_dropped content title state dropped] at run
      cases run
      exact Or.inl ⟨dropped, rfl⟩
    · rw [image_of_video content title state kept video] at run
      cases run
      exact Or.inr (Or.inl ⟨video, opens_videoMarkup setting url title⟩)
    · refine Or.inr (Or.inr ?_)
      rcases probing : probeUrl setting url with (cause | error) | size
      · rw [image_of_unreadable content title state probed probing] at run
        split_ifs at run
        cases run
        exact opens_imageMarkup setting content url none title
      · rw [image_of_escaped content title state probed probing] at run
        cases run
      · rw [image_of_size content title state probed probing] at run
        cases run
        exact opens_imageMarkup setting content url (some size) title
  · obtain ⟨behind, reads⟩ := readTag?_render setting.tools.lexers setting.options.tabReplacement
      info ((Text.before? ['\n'] source).getD source)
    have noDivision : Text.occursIn "<div".toList (markerHtml (state.enter .code none).1) =
        false := by
      have marker : (state.enter .code none).1 =
          if state.groupOpen = true then some .closer else none := rfl
      rw [marker]
      split_ifs <;> decide
    exact ⟨_, behind, rfl, isSealed_listingTag _, _, _, rfl, noDivision, reads⟩

/-- A title with quotes stays in its attribute, and so does the alternative text of an image. -/
theorem quotes_stay_in_their_attributes :
    let setting : Setting := ⟨{}, .ofFiles []⟩
    (∃ html, ((Call.link "Next".toList "a\"b".toList (some "x\" onclick=\"y".toList)).run setting
        (.fresh 1)).result = .ok html ∧
      Opens ⟨"a".toList, [("href".toList, some "a%22b".toList),
        ("title".toList, some "x&quot; onclick=&quot;y".toList)], false⟩ html
          "Next</a>".toList) ∧
    ∃ html behind, ((Call.image "\"><script>".toList "gone.png".toList none).run setting
        (.fresh 1)).result = .ok html ∧
      Opens ⟨"img".toList, [("alt".toList, some "&quot;&gt;".toList),
        ("src".toList, some "gone.png".toList)], false⟩ html behind := by
  intro setting
  obtain ⟨links, images, -⟩ := tags_have_their_own_attributes setting (.fresh 1)
  constructor
  · have cleaned : Url.clean setting.options.sanitize setting.options.baseUrl "a\"b".toList =
        .ok (some "a%22b".toList) := by decide
    obtain ⟨number, fails, -⟩ | ⟨html, rendered, ⟨alone, -⟩ | ⟨target, kept, opens⟩⟩ :=
      links "Next".toList "a\"b".toList (some "x\" onclick=\"y".toList)
    · exact absurd (cleaned.symm.trans fails) (by simp)
    · exact absurd alone (by decide)
    · obtain rfl : "a%22b".toList = target :=
        Option.some.inj (Except.ok.inj (cleaned.symm.trans kept))
      exact ⟨html, rendered, opens⟩
  · obtain ⟨html, rendered⟩ : ∃ html, ((Call.image "\"><script>".toList "gone.png".toList none).run
        setting (.fresh 1)).result = .ok html := ⟨_, rfl⟩
    rcases images "\"><script>".toList "gone.png".toList none html rendered with
      ⟨dropped, -⟩ | ⟨video, -⟩ | ⟨behind, opens⟩
    · exact absurd dropped (by decide)
    · exact absurd video (by decide)
    · have tag : imageTag "\"><script>".toList "gone.png".toList
          (probeUrl setting "gone.png".toList).toOption setting.options.xhtml =
          ⟨"img".toList, [("alt".toList, some "&quot;&gt;".toList),
            ("src".toList, some "gone.png".toList)], false⟩ := by decide
      rw [tag] at opens
      exact ⟨html, behind, rendered, opens⟩

end Hook

end BookMarkup
