/-
This file proves that a highlighted listing reproduces its source line by line: it has one
numbered row for every line, and a row whose tags are removed shows its line, escaped and
with the tabs replaced. The spans of a row are opened and closed in the row.
-/

import BookMarkup.Proofs.Listing.Formatted
import BookMarkup.Proofs.Listing.Language
import BookMarkup.Proofs.Text.Number
import BookMarkup.Tools.Known

namespace BookMarkup

namespace Listing

/-! ### Rows open and close their spans -/

/-- Whether the spans of a text are closed at its end when `depth` of them are open before it. No
end tag closes a span that is not open. -/
def closesFrom (depth : Nat) : Text → Bool
  | [] => depth == 0
  | head :: rest =>
    if "<span".toList.isPrefixOf (head :: rest) then closesFrom (depth + 1) rest
    else if spanEnd.isPrefixOf (head :: rest) then depth != 0 && closesFrom (depth - 1) rest
    else closesFrom depth rest

/-- Whether a text opens and closes every span that it contains. -/
def closesSpans (text : Text) : Bool :=
  closesFrom 0 text

theorem closesFrom_append_of_plain {front : Text} (plain : ∀ c ∈ front, c ≠ '<') (depth : Nat)
    (rest : Text) : closesFrom depth (front ++ rest) = closesFrom depth rest := by
  induction front with
  | nil => rfl
  | cons head front inductionHypothesis =>
    have other : '<' ≠ head := (plain head List.mem_cons_self).symm
    have spanTag : "<span".toList.head? = some '<' := by decide
    rw [List.cons_append, closesFrom, Text.isPrefixOf_of_ne spanTag other,
      Text.isPrefixOf_of_ne head?_spanEnd other]
    exact inductionHypothesis fun c member => plain c (List.mem_cons_of_mem _ member)

theorem closesFrom_spanStart {name : Text} (noTag : '<' ∉ name) (depth : Nat) (rest : Text) :
    closesFrom depth (spanStart name ++ rest) = closesFrom (depth + 1) rest := by
  have opens : "<span".toList.isPrefixOf ('<' :: ((spanStart name).tail ++ rest)) = true := rfl
  have tail := closesFrom_append_of_plain (ne_of_mem_tail_spanStart noTag) (depth + 1) rest
  show closesFrom depth ('<' :: ((spanStart name).tail ++ rest)) = _
  rw [closesFrom, if_pos opens, tail]

theorem closesFrom_spanEnd (depth : Nat) (rest : Text) :
    closesFrom (depth + 1) (spanEnd ++ rest) = closesFrom depth rest := by
  have closes : spanEnd.isPrefixOf ('<' :: ("/span>".toList ++ rest)) = true := rfl
  have noStart : ¬ "<span".toList.isPrefixOf ('<' :: ("/span>".toList ++ rest)) = true :=
    Bool.false_ne_true
  have plain : ∀ c ∈ "/span>".toList, c ≠ '<' := by decide
  have tail := closesFrom_append_of_plain plain depth rest
  show closesFrom (depth + 1) ('<' :: ("/span>".toList ++ rest)) = _
  rw [closesFrom, if_neg noStart, if_pos closes, Nat.add_sub_cancel, tail]
  rfl

/-- A row opens and closes its spans. -/
theorem closesSpans_markupOf {fragments : List Fragment}
    (proper : ∀ fragment ∈ fragments, fragment.IsProper) :
    closesSpans (markupOf fragments) = true := by
  unfold closesSpans
  induction fragments with
  | nil => rfl
  | cons fragment others inductionHypothesis =>
    have later := inductionHypothesis fun fragment member =>
      proper fragment (List.mem_cons_of_mem _ member)
    have here := proper fragment List.mem_cons_self
    cases fragment with
    | char c =>
      have other : c ≠ '<' := here
      rw [markupOf_char, ← List.singleton_append,
        closesFrom_append_of_plain (by simpa using other), later]
    | span name text =>
      obtain ⟨⟨-, noTagInName, -⟩, noTag⟩ := here
      have plain : ∀ c ∈ text, c ≠ '<' := fun c member equal => noTag (equal ▸ member)
      rw [markupOf_span, closesFrom_spanStart noTagInName, closesFrom_append_of_plain plain,
        closesFrom_spanEnd, later]

/-! ### Counting rows -/

/-- The needle that rows are counted by. -/
def rowNeedles : List (Text × Unit) :=
  [("<tr>".toList, ())]

/-- How many rows a table starts in some markup. -/
def countRows (html : Text) : Nat :=
  (Text.signs rowNeedles html).length

theorem countRows_append {left right : Text} (apart : Text.MeetApart rowNeedles left right) :
    countRows (left ++ right) = countRows left + countRows right := by
  unfold countRows
  rw [Text.signs_append apart, List.length_append]

/-- Markup whose last character is not in a row tag before its end meets any other apart. -/
theorem apart_of_getLast? {left : Text} (right : Text)
    (outside : ∀ last ∈ left.getLast?, last ∉ "<tr".toList) :
    Text.MeetApart rowNeedles left right := by
  intro needle member
  rw [List.mem_singleton.mp member]
  exact Or.inl outside

theorem countRows_append_of_plain {front : Text} (plain : ∀ c ∈ front, c ≠ '<') (rest : Text) :
    countRows (front ++ rest) = countRows rest := by
  unfold countRows
  rw [Text.signs_append_of_heads]
  intro c member needle inNeedles
  rw [List.mem_singleton.mp inNeedles]
  exact ⟨'<', "tr>".toList, rfl, (plain c member).symm⟩

theorem countRows_spanStart {name : Text} (noTag : '<' ∉ name) (rest : Text) :
    countRows (spanStart name ++ rest) = countRows rest := by
  have tail := countRows_append_of_plain (ne_of_mem_tail_spanStart noTag) rest
  have other : Text.signAt? rowNeedles ('<' :: ((spanStart name).tail ++ rest)) = none := rfl
  show countRows ('<' :: ((spanStart name).tail ++ rest)) = _
  rw [← tail, countRows, Text.signs_cons_of_none other, countRows]

theorem countRows_spanEnd (rest : Text) : countRows (spanEnd ++ rest) = countRows rest := by
  have plain : ∀ c ∈ "/span>".toList, c ≠ '<' := by decide
  have tail := countRows_append_of_plain plain rest
  have other : Text.signAt? rowNeedles ('<' :: ("/span>".toList ++ rest)) = none := rfl
  show countRows ('<' :: ("/span>".toList ++ rest)) = _
  rw [← tail, countRows, Text.signs_cons_of_none other, countRows]

/-- Fragments hold no row. -/
theorem countRows_markupOf {fragments : List Fragment}
    (proper : ∀ fragment ∈ fragments, fragment.IsProper) : countRows (markupOf fragments) = 0 := by
  induction fragments with
  | nil => rfl
  | cons fragment others inductionHypothesis =>
    have later := inductionHypothesis fun fragment member =>
      proper fragment (List.mem_cons_of_mem _ member)
    have here := proper fragment List.mem_cons_self
    cases fragment with
    | char c =>
      have other : c ≠ '<' := here
      rw [markupOf_char, ← List.singleton_append,
        countRows_append_of_plain (by simpa using other), later]
    | span name text =>
      obtain ⟨⟨-, noTagInName, -⟩, noTag⟩ := here
      have plain : ∀ c ∈ text, c ≠ '<' := fun c member equal => noTag (equal ▸ member)
      rw [markupOf_span, countRows_spanStart noTagInName, countRows_append_of_plain plain,
        countRows_spanEnd, later]

/-- A row counts as one row. -/
theorem countRows_renderRow (number : Nat) {content : Text} (noRow : countRows content = 0) :
    countRows (renderRow number content) = 1 := by
  have digits : ∀ c ∈ Text.ofNat number, c ≠ '<' := by
    intro c member equal
    have digit := Text.isDigit_of_mem_ofNat member
    rw [equal] at digit
    exact absurd digit (by decide)
  have behind : countRows (content ++ "</pre></td></tr>\n".toList) = 0 := by
    have apart : Text.MeetApart rowNeedles content "</pre></td></tr>\n".toList := by
      intro needle member
      rw [List.mem_singleton.mp member]
      right
      decide
    rw [countRows_append apart, noRow]
    decide
  unfold renderRow
  simp only [List.append_assoc]
  rw [countRows_append (apart_of_getLast? _ (by decide)), countRows_append_of_plain digits,
    countRows_append (apart_of_getLast? _ (by decide)), behind]
  decide

/-- Rows without rows in them are as many as their contents. -/
theorem countRows_renderRowsFrom (first : Nat) {contents : List Text}
    (noRows : ∀ content ∈ contents, countRows content = 0) :
    countRows (renderRowsFrom first contents) = contents.length := by
  induction contents generalizing first with
  | nil => rfl
  | cons content others inductionHypothesis =>
    have apart : Text.MeetApart rowNeedles (renderRow first content)
        (renderRowsFrom (first + 1) others) := by
      intro needle member
      rw [List.mem_singleton.mp member]
      right
      cases others with
      | nil => simp [renderRowsFrom]
      | cons second others =>
        intro start inHead
        cases inHead
        decide
    rw [renderRowsFrom, countRows_append apart,
      countRows_renderRow first (noRows content List.mem_cons_self),
      inductionHypothesis (first + 1) fun content member =>
        noRows content (List.mem_cons_of_mem _ member), List.length_cons, Nat.add_comm]

/-! ### Listings -/

/-- The rows of highlighted code: for each line one that shows it, balanced and without a row in
it. -/
theorem rowContents_format {style : Style} (plainStyle : style.IsPlain) (named : style.IsNamed)
    {tokens : List Token} {code : Text} (noReturn : '\r' ∉ code) (spells : spelling tokens = code) :
    (rowContents (format style tokens)).map Html.stripTags =
        (Text.lines code).map (shown style) ∧
      ∀ content ∈ rowContents (format style tokens),
        closesSpans content = true ∧ countRows content = 0 := by
  subst spells
  have sound := isSound_of_mem_fragments plainStyle named noReturn
  have rows := rowContents_markupOf sound
  rw [markupOf, html_fragments] at rows
  rw [rows]
  constructor
  · have flat : ∀ fragment ∈ fragments style tokens, fragment.IsFlat :=
      fun fragment member => (sound fragment member).isFlat
    have shows : (rowsOf (fragments style tokens)).map textOf =
        (Text.lines (spelling tokens)).map (shown style) := by
      rw [← lines_textOf flat, ← lines_shown plainStyle noReturn, textOf, text_fragments]
    rw [List.map_map, ← shows]
    exact List.map_congr_left fun row member =>
      stripTags_markupOf fun fragment inRow =>
        (isSound_of_mem_rowsOf sound member fragment inRow).isProper.isClosed
  · intro content member
    obtain ⟨row, inRows, rfl⟩ := List.mem_map.mp member
    have proper : ∀ fragment ∈ row, fragment.IsProper := fun fragment inRow =>
      (isSound_of_mem_rowsOf sound inRows fragment inRow).isProper
    exact ⟨closesSpans_markupOf proper, countRows_markupOf proper⟩

/-- What a highlighted listing writes in front of its rows. -/
def tableStart (language : Text) : Text :=
  "<div class=\"code code-".toList ++ Html.escapeAll language ++
    "\">\n<table class=\"code-table\">\n".toList

theorem countRows_tableStart (language rest : Text) :
    countRows (tableStart language ++ rest) = countRows rest := by
  have plain : ∀ c ∈ Html.escapeAll language, c ≠ '<' := by
    rintro c member rfl
    exact absurd (Html.not_reserved_of_mem_escapeAll member) (by decide)
  unfold tableStart
  rw [List.append_assoc, List.append_assoc, countRows_append (apart_of_getLast? _ (by decide)),
    countRows_append_of_plain plain, countRows_append (apart_of_getLast? _ (by decide))]
  have none : countRows "<div class=\"code code-".toList = 0 ∧
      countRows "\">\n<table class=\"code-table\">\n".toList = 0 := by decide
  rw [none.1, none.2, Nat.zero_add, Nat.zero_add]

/-- The number of rows in the markup of a listing, with the group marker in front of it. -/
theorem countRows_listing (marker : Option GroupMarker) (language : Text) {contents : List Text}
    (noRows : ∀ content ∈ contents, countRows content = 0) :
    countRows (markerHtml marker ++ (tableStart language ++
      (renderRowsFrom 1 contents ++ "</table>\n</div>\n".toList))) = contents.length := by
  have noMarker : countRows (markerHtml marker) = 0 ∧
      ∀ last ∈ (markerHtml marker).getLast?, last ∉ "<tr".toList := by
    cases marker with
    | none => decide
    | some marker => cases marker <;> decide
  have apart : Text.MeetApart rowNeedles (renderRowsFrom 1 contents)
      "</table>\n</div>\n".toList := by
    intro needle member
    rw [List.mem_singleton.mp member]
    right
    decide
  have noEnd : countRows "</table>\n</div>\n".toList = 0 := by decide
  rw [countRows_append (apart_of_getLast? _ noMarker.2), noMarker.1, countRows_tableStart,
    countRows_append apart, countRows_renderRowsFrom 1 noRows, noEnd, Nat.zero_add, Nat.add_zero]

/-- A listing in a language other than ASCII art is a table. -/
theorem render_eq_table {lexers : Lexers} {tabReplacement : Text} {info : Option Text} {code : Text}
    (named : languageOf info ≠ []) (noArt : languageOf info ≠ "ascii".toList) :
    render lexers tabReplacement info code =
      tableStart (languageOf info) ++
        (renderRowsFrom 1 (rowContents
          (highlight { tabReplacement } lexers [languageOf info] code)) ++
            "</table>\n</div>\n".toList) := by
  have noLanguage : ¬ (languageOf info).isEmpty = true := by
    rw [List.isEmpty_iff]
    exact named
  unfold render
  simp only [if_neg noLanguage, if_neg noArt]
  unfold renderHighlighted renderRows tableStart
  simp only [List.append_assoc]

theorem isNamed_default {tabReplacement : Text} : Style.IsNamed { tabReplacement } := by
  have inClass : ∀ c ∈ "hljs-".toList, isClassChar c = true := by decide
  exact inClass

/-- The tokens that a renderer cuts code in a language into. -/
def tokensOf (setting : Setting) (language code : Text) : List Token :=
  (setting.tools.lexers.choose [language]).tokens code

/-- The listing of code in a language other than ASCII art, from which the line end in front of the
fence is dropped. -/
theorem result_code (setting : Setting) (state : RenderState) (code : Text) {info : Text}
    (named : languageOf (some info) ≠ []) (noArt : languageOf (some info) ≠ "ascii".toList) :
    ((Call.code (code ++ ['\n']) (some info)).run setting state).result =
      .ok (markerHtml (state.enter .code none).1 ++ (tableStart (languageOf (some info)) ++
        (renderRowsFrom 1 (rowContents (format
          { tabReplacement := setting.options.tabReplacement }
          (tokensOf setting (languageOf (some info)) code))) ++ "</table>\n</div>\n".toList))) := by
  have run : ((Call.code (code ++ ['\n']) (some info)).run setting state).result =
      .ok (markerHtml (state.enter .code none).1 ++
        render setting.tools.lexers setting.options.tabReplacement (some info)
          ((Text.before? ['\n'] (code ++ ['\n'])).getD (code ++ ['\n']))) := rfl
  rw [run, Text.before?_append, Option.getD_some, render_eq_table named noArt]
  rfl

/-- A highlighted listing reproduces its source. For code without carriage returns whose tokens
spell it, a language other than ASCII art, and tabs that become characters which start no tag and
end no line, the listing has one row for each line of the code, numbered from one on. The content
of a row without its tags is its line, escaped and with the tabs replaced, and the content opens and
closes every span in it. -/
theorem listing_reproduces_source (setting : Setting) (state : RenderState) (code info : Text)
    (noReturn : '\r' ∉ code)
    (named : languageOf (some info) ≠ []) (noArt : languageOf (some info) ≠ "ascii".toList)
    (plainTabs : ∀ c ∈ setting.options.tabReplacement, c ≠ '<' ∧ c ≠ '\n' ∧ c ≠ '\r')
    (spells : spelling
      ((setting.tools.lexers.choose [languageOf (some info)]).tokens code) = code) :
    ∃ (html : Text) (contents : List Text),
      ((Call.code (code ++ ['\n']) (some info)).run setting state).result = .ok html ∧
      html = markerHtml (state.enter .code none).1 ++ ("<div class=\"code code-".toList ++
        Html.escapeAll (languageOf (some info)) ++
        "\">\n<table class=\"code-table\">\n".toList ++
        (numberedRows contents ++ "</table>\n</div>\n".toList)) ∧
      countRows html = code.count '\n' + 1 ∧
      contents.map Html.stripTags = (Text.lines code).map (fun line =>
        Text.replaceChar '\t' setting.options.tabReplacement (Html.escapeAll line)) ∧
      ∀ content ∈ contents, closesSpans content = true := by
  let style : Style := { tabReplacement := setting.options.tabReplacement }
  have plainStyle : style.IsPlain := plainTabs
  obtain ⟨shows, each⟩ := rowContents_format plainStyle isNamed_default noReturn spells
  obtain ⟨contents, isContents⟩ : ∃ contents,
      contents = rowContents (format style (tokensOf setting (languageOf (some info)) code)) :=
    ⟨_, rfl⟩
  have written := result_code setting state code named noArt
  rw [← isContents] at written
  rw [show (setting.tools.lexers.choose [languageOf (some info)]).tokens code =
    tokensOf setting (languageOf (some info)) code from rfl, ← isContents] at shows each
  refine ⟨_, contents, written, ?_, ?_, shows, fun content member => (each content member).1⟩
  · rw [renderRowsFrom_one]
    rfl
  · have lengths := congrArg List.length shows
    rw [List.length_map, List.length_map, Text.length_lines] at lengths
    rw [countRows_listing _ _ fun content member => (each content member).2, lengths]

/-- Differences with a tab, an empty line and a reserved character. -/
theorem listing_reproduces_differences :
    let setting : Setting := ⟨{ tabReplacement := "  ".toList }, .ofFiles []⟩
    let code := "-a\tb\n\n+c < d".toList
    '\r' ∉ code ∧ spelling ((setting.tools.lexers.choose ["diff".toList]).tokens code) = code ∧
    ∃ (html : Text) (contents : List Text),
      ((Call.code (code ++ ['\n']) (some "diff".toList)).run setting (.fresh 1)).result =
        .ok html ∧
      html = "<div class=\"code code-diff\">\n<table class=\"code-table\">\n".toList ++
        (numberedRows ["<span class=\"hljs-deletion\">-a  b</span>".toList, [],
          "+c &lt; d".toList] ++ "</table>\n</div>\n".toList) ∧
      countRows html = 3 ∧
      contents.map Html.stripTags = ["-a  b".toList, [], "+c &lt; d".toList] ∧
      ∀ content ∈ contents, closesSpans content = true := by
  intro setting code
  have noReturn : '\r' ∉ code := by decide
  have spells : spelling ((setting.tools.lexers.choose ["diff".toList]).tokens code) = code := by
    rw [show setting.tools.lexers = .three from rfl, spelling_three,
      prepared_eq_self noReturn (by decide)]
  have written := @result_code setting (.fresh 1) code "diff".toList (by decide) (by decide)
  have rows : rowContents (format { tabReplacement := "  ".toList }
      (tokensOf setting (languageOf (some "diff".toList)) code)) =
        ["<span class=\"hljs-deletion\">-a  b</span>".toList, [], "+c &lt; d".toList] := by
    decide +kernel
  have start : markerHtml (RenderState.enter (.fresh 1) .code none).1 ++
      tableStart (languageOf (some "diff".toList)) =
        "<div class=\"code code-diff\">\n<table class=\"code-table\">\n".toList := by
    decide +kernel
  rw [rows, renderRowsFrom_one, ← List.append_assoc, start] at written
  obtain ⟨html, contents, rendered, -, count, shows, closes⟩ := listing_reproduces_source
    setting (.fresh 1) code "diff".toList noReturn (by decide) (by decide) (by decide) spells
  exact ⟨noReturn, spells, html, contents, rendered, Except.ok.inj (rendered.symm.trans written),
    count, shows, closes⟩

end Listing

end BookMarkup
