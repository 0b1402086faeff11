/-
This file proves what the rows of added lines hold in a listing of differences. Tokens that
spell a line, and nothing of its neighbours, stand alone in the row of the line: where texts
meet at a line end, a run of tokens that goes on is cut there anyway. So the row of an added
line is one span as long as the lexer gives one token for it, which it does for every line
with a line end. The last line has none, because the one in front of the fence is dropped. Its
characters are errors, which have no category, so it is shown without a span.
-/

import BookMarkup.Proofs.Listing.Source

namespace BookMarkup

namespace Listing

/-! ### Code without tabs -/

/-- Where there is no tab, what tabs are replaced by does not matter. -/
theorem shown_of_no_tab (style : Style) {text : Text} (noTab : '\t' ∉ text) :
    shown style text = Html.escapeAll text := by
  have kept : ∀ c ∈ Html.escapeAll text,
      (if c = '\t' then style.tabReplacement else [c]) = [c] := by
    intro c member
    refine if_neg ?_
    rintro rfl
    obtain ⟨source, inText, inChar⟩ := List.mem_flatMap.mp member
    rcases Html.mem_escapeChar inChar with rfl | inReference
    · exact noTab inText
    · exact absurd inReference (by decide)
  unfold shown Text.replaceChar
  rw [List.flatMap_congr kept, List.flatMap_singleton']

theorem format_of_no_tab (style : Style) (tabReplacement : Text) {tokens : List Token}
    (noTab : '\t' ∉ spelling tokens) :
    format style tokens = format { style with tabReplacement } tokens := by
  rw [format_eq_flatMap_runs, format_eq_flatMap_runs]
  refine List.flatMap_congr fun run member => ?_
  obtain ⟨category, text⟩ := run
  have noTabInRun : '\t' ∉ text := fun inText =>
    noTab (text_runs tokens ▸ List.mem_flatMap.mpr ⟨_, member, inText⟩)
  cases category <;> simp only [renderRun, shown_of_no_tab _ noTabInRun]

/-! ### Tokens of a line -/

section

variable {style : Style}

/-- Text on one line is shown on one line. -/
theorem lineEnd_not_mem_shown (plainStyle : style.IsPlain) {text : Text} (oneLine : '\n' ∉ text)
    (noReturn : '\r' ∉ text) : '\n' ∉ shown style text := by
  intro member
  rw [shown_eq_flatMap] at member
  obtain ⟨source, inText, written⟩ := List.mem_flatMap.mp member
  have plain : source ≠ '\n' ∧ source ≠ '\r' :=
    ⟨fun equal => oneLine (equal ▸ inText), fun equal => noReturn (equal ▸ inText)⟩
  exact (isLineChar_of_mem_shownChar plainStyle plain written).2.1 rfl

/-- What is shown on one line has no line end among its fragments. -/
theorem isLineEnd_of_mem_fragments {tokens : List Token}
    (oneLine : '\n' ∉ shown style (spelling tokens)) :
    ∀ fragment ∈ fragments style tokens, fragment.isLineEnd = false := by
  intro fragment member
  refine beq_eq_false_iff_ne.mpr ?_
  rintro rfl
  rw [← text_fragments] at oneLine
  exact oneLine (List.mem_flatMap.mpr ⟨_, member, List.mem_cons_self⟩)

/-- Only a line end shows one. -/
theorem Fragment.isLineEnd_of_mem_text {fragment : Fragment} (flat : fragment.IsFlat)
    (member : '\n' ∈ fragment.text) : fragment.isLineEnd = true := by
  cases fragment with
  | char c =>
    rw [← List.mem_singleton.mp member]
    rfl
  | span className text => exact absurd member flat.2.2

theorem shown_lineEnd (style : Style) : shown style ['\n'] = ['\n'] := by
  rw [shown_eq_flatMap]
  rfl

/-- The last fragment of tokens that end with a newline is a line end. -/
theorem isLineEnd_of_getLast?_fragments {tokens : List Token}
    (flat : ∀ fragment ∈ fragments style tokens, fragment.IsFlat)
    (ends : ∀ last ∈ (spelling tokens).getLast?, last = '\n') :
    ∀ fragment ∈ (fragments style tokens).getLast?, fragment.isLineEnd = true := by
  intro fragment final
  have member := List.mem_of_getLast? final
  have visible := text_ne_nil_of_mem_fragments member
  refine fragment.isLineEnd_of_mem_text (flat fragment member) ?_
  obtain ⟨front, whole⟩ := List.getLast?_eq_some_iff.mp final
  have shows := text_fragments style tokens
  rw [whole, List.flatMap_append, List.flatMap_singleton] at shows
  cases last : (spelling tokens).getLast? with
  | none =>
    rw [List.getLast?_eq_none_iff.mp last] at shows
    exact absurd (List.append_eq_nil_iff.mp shows).2 visible
  | some c =>
    obtain ⟨text, spelled⟩ := List.getLast?_eq_some_iff.mp last
    rw [spelled, ends c last, shown_append, shown_lineEnd] at shows
    have same := congrArg List.getLast? shows
    rw [List.getLast?_append_of_ne_nil _ visible, List.getLast?_concat] at same
    exact List.mem_of_getLast? same

/-- The first fragment of tokens that start with a newline is a line end. -/
theorem isLineEnd_of_head?_fragments {tokens : List Token}
    (flat : ∀ fragment ∈ fragments style tokens, fragment.IsFlat)
    (starts : ∀ first ∈ (spelling tokens).head?, first = '\n') :
    ∀ fragment ∈ (fragments style tokens).head?, fragment.isLineEnd = true := by
  intro fragment start
  have member := List.mem_of_mem_head? start
  have visible := text_ne_nil_of_mem_fragments member
  refine fragment.isLineEnd_of_mem_text (flat fragment member) ?_
  obtain ⟨behind, whole⟩ := List.head?_eq_some_iff.mp start
  have shows := text_fragments style tokens
  rw [whole, List.flatMap_cons] at shows
  cases spelled : spelling tokens with
  | nil =>
    rw [spelled] at shows
    exact absurd (List.append_eq_nil_iff.mp shows).1 visible
  | cons c text =>
    rw [spelled] at shows starts
    rw [starts c rfl, ← List.singleton_append, shown_append, shown_lineEnd] at shows
    have same := congrArg List.head? shows
    rw [List.head?_append_of_ne_nil _ visible] at same
    exact List.mem_of_mem_head? same

/-- Fragments have as many line ends as the text that is shown. -/
theorem countP_isLineEnd_fragments (plainStyle : style.IsPlain) {tokens : List Token}
    (noReturn : '\r' ∉ spelling tokens)
    (flat : ∀ fragment ∈ fragments style tokens, fragment.IsFlat) :
    (fragments style tokens).countP Fragment.isLineEnd = (spelling tokens).count '\n' := by
  have inRows := congrArg List.length (lines_textOf flat)
  have inText := congrArg List.length (lines_shown plainStyle noReturn)
  rw [List.length_map, rowsOf, Text.length_splitOnP, textOf, text_fragments] at inRows
  rw [List.length_map, Text.length_lines (spelling tokens), inRows] at inText
  exact Nat.add_right_cancel inText

/-- Tokens between line ends, without one among them, stand alone in their row. -/
theorem getElem?_rowContents (plainStyle : style.IsPlain) (named : style.IsNamed)
    {front line behind : List Token}
    (noReturn : '\r' ∉ spelling (front ++ (line ++ behind))) (oneLine : '\n' ∉ spelling line)
    (opens : ∀ last ∈ (spelling front).getLast?, last = '\n')
    (closes : ∀ first ∈ (spelling behind).head?, first = '\n') :
    (rowContents (format style (front ++ (line ++ behind))))[(spelling front).count '\n']? =
      some (format style line) := by
  have sound := isSound_of_mem_fragments plainStyle named noReturn
  have pieces : fragments style (front ++ (line ++ behind)) =
      fragments style front ++ (fragments style line ++ fragments style behind) := by
    rw [fragments_append (.inl opens), fragments_append (.inr closes)]
  have rows := rowContents_markupOf sound
  rw [pieces] at sound
  have flat (part : List Token) (among : fragments style part ⊆
      fragments style front ++ (fragments style line ++ fragments style behind)) :
      ∀ fragment ∈ fragments style part, fragment.IsFlat :=
    fun fragment member => (sound fragment (among member)).isFlat
  have flatFront := flat front (List.subset_append_left _ _)
  have flatBehind := flat behind fun _ member =>
    List.mem_append_right _ (List.mem_append_right _ member)
  simp only [spelling_append, List.mem_append, not_or] at noReturn
  have shownLine : '\n' ∉ shown style (spelling line) :=
    lineEnd_not_mem_shown plainStyle oneLine noReturn.2.1
  have found := Text.getElem?_splitOnP (isLineEnd_of_mem_fragments shownLine)
    (isLineEnd_of_getLast?_fragments flatFront opens)
    (isLineEnd_of_head?_fragments flatBehind closes)
  rw [countP_isLineEnd_fragments plainStyle noReturn.1 flatFront, ← pieces, ← rowsOf] at found
  rw [markupOf, html_fragments] at rows
  rw [rows, List.getElem?_map, found, Option.map_some, markupOf, html_fragments]

/-- Tokens without categories are written as the text that they spell. -/
theorem format_of_plain {tokens : List Token} (plain : ∀ token ∈ tokens, category token.1 = none) :
    format style tokens = shown style (spelling tokens) := by
  cases tokens with
  | nil => rfl
  | cons token others =>
    have one := @runs_append_of_alike (token :: others) [] none (List.cons_ne_nil _ _) plain nofun
    rw [List.append_nil] at one
    rw [format_eq_flatMap_runs, one]
    exact List.append_nil _

end

theorem plain_default : Style.IsPlain {} := by
  have plain : ∀ c ∈ ['\t'], c ≠ '<' ∧ c ≠ '\n' ∧ c ≠ '\r' := by decide
  exact plain

/-! ### Lexers for differences -/

/-- Whether a lexer reads code as it is: without carriage returns and a byte order mark. -/
def IsPrepared (code : Text) : Prop :=
  '\r' ∉ code ∧ code.head? ≠ some '\uFEFF'

/-- What is known about a lexer for differences. -/
structure CutsDifferences (lexer : Lexer) : Prop where
  /-- The tokens of code spell it. -/
  spells : ∀ {code : Text}, IsPrepared code → spelling (lexer.tokens code) = code
  /-- A line that starts with a plus sign and has a line end is one token for inserted text. -/
  inserted : ∀ {before line behind : Text}, IsPrepared (before ++ (line ++ '\n' :: behind)) →
    (∀ last ∈ before.getLast?, last = '\n') → '\n' ∉ line → line.head? = some '+' →
    ∃ front back, lexer.tokens (before ++ (line ++ '\n' :: behind)) =
        front ++ (["Generic".toList, "Inserted".toList], line) :: back ∧
      spelling front = before
  /-- No rule applies to a last line without a line end, so that its characters are errors. -/
  unended : ∀ {before line : Text}, IsPrepared (before ++ line) →
    (∀ last ∈ before.getLast?, last = '\n') → '\n' ∉ line →
    ∃ front, lexer.tokens (before ++ line) = front ++ line.map (fun c => (["Error".toList], [c])) ∧
      spelling front = before

/-- The tokens of a line of differences with its end. -/
def endedLine (line : Text) : List Token :=
  nonEmpty (differenceLine line ++ [(blankKind, ['\n'])])

theorem spelling_endedLine (line : Text) : spelling (endedLine line) = line ++ ['\n'] := by
  rw [endedLine, spelling_nonEmpty, spelling_append, spelling_differenceLine]
  rfl

theorem takeWhile_oneLine {line : Text} (oneLine : '\n' ∉ line) (rest : Text) :
    (line ++ rest).takeWhile (· != '\n') = line ++ rest.takeWhile (· != '\n') := by
  refine List.takeWhile_append_of_pos fun c member => ?_
  rw [bne_iff_ne]
  rintro rfl
  exact oneLine member

/-- A line with its end is cut into its own tokens. -/
theorem lexFrom_endedLine {line : Text} (oneLine : '\n' ∉ line) (rest : Text) :
    lexFrom differenceStep 0 () (line ++ '\n' :: rest) =
      endedLine line ++ lexFrom differenceStep 0 () rest := by
  have whole : line ++ '\n' :: rest = (line ++ ['\n']) ++ rest := by
    rw [List.append_assoc, List.singleton_append]
  have first : (line ++ '\n' :: rest).takeWhile (· != '\n') = line := by
    rw [takeWhile_oneLine oneLine, List.takeWhile_cons_of_neg (by decide), List.append_nil]
  have stepped : differenceStep () (line ++ '\n' :: rest) = (endedLine line, ()) := by
    unfold differenceStep
    simp only [first, List.drop_left, List.isEmpty_cons, Bool.false_eq_true, if_false]
    rfl
  rw [whole] at stepped ⊢
  exact lexFrom_append stepped (spelling_endedLine line) (List.concat_ne_nil '\n' line)

/-- The characters of a line without an end are errors. -/
theorem lexFrom_lastLine {line : Text} (oneLine : '\n' ∉ line) :
    lexFrom differenceStep 0 () line = line.map fun c => (errorKind, [c]) := by
  induction line with
  | nil => rw [lexFrom, List.map_nil]
  | cons head rest inductionHypothesis =>
    have whole : (head :: rest).takeWhile (· != '\n') = head :: rest := by
      have run := takeWhile_oneLine oneLine []
      rwa [List.append_nil, List.takeWhile_nil, List.append_nil] at run
    have stepped : differenceStep () ([head] ++ rest) = ([(errorKind, [head])], ()) := by
      unfold differenceStep
      simp only [List.singleton_append, whole, List.drop_length, List.isEmpty_nil, if_true]
      rfl
    rw [← List.singleton_append, lexFrom_append stepped rfl (List.cons_ne_nil _ _),
      inductionHypothesis fun member => oneLine (List.mem_cons_of_mem _ member)]
    rfl

/-- Lines with their ends are cut into tokens by themselves. -/
theorem exists_lexFrom_append {before : Text} (ended : ∀ last ∈ before.getLast?, last = '\n') :
    ∃ front, spelling front = before ∧ ∀ rest,
      lexFrom differenceStep 0 () (before ++ rest) = front ++ lexFrom differenceStep 0 () rest := by
  induction size : before.length using Nat.strongRecOn generalizing before with
  | ind count inductionHypothesis =>
    cases final : before.getLast? with
    | none => exact ⟨[], (List.getLast?_eq_none_iff.mp final).symm, fun rest => by
        rw [List.getLast?_eq_none_iff.mp final]
        rfl⟩
    | some last =>
      have member : '\n' ∈ before := ended last final ▸ List.mem_of_getLast? final
      obtain ⟨line, later, rfl, oneLine⟩ := List.eq_append_cons_of_mem member
      have endedLater : ∀ last ∈ later.getLast?, last = '\n' := by
        intro last isLast
        refine ended last ?_
        rw [List.getLast?_append, List.getLast?_cons, Option.mem_def.mp isLast]
        rfl
      have shorter : later.length < count := by
        rw [← size, List.length_append, List.length_cons]
        omega
      obtain ⟨front, spells, cut⟩ := inductionHypothesis later.length shorter endedLater rfl
      refine ⟨endedLine line ++ front, ?_, fun rest => ?_⟩
      · rw [spelling_append, spelling_endedLine, spells, List.append_assoc, List.singleton_append]
      · rw [List.append_assoc, List.cons_append, lexFrom_endedLine oneLine, cut, List.append_assoc]

/-- The lexer for differences is such a lexer. -/
theorem cutsDifferences_differences : CutsDifferences .differences where
  spells prepared := by
    show spelling (lexFrom differenceStep 0 () _) = _
    rw [prepared_eq_self prepared.1 prepared.2, spelling_lexFrom fun _ => takesFrom_differenceStep]
  inserted := by
    intro before line behind prepared ended oneLine added
    obtain ⟨front, spells, cut⟩ := exists_lexFrom_append ended
    obtain ⟨rest, rfl⟩ := List.head?_eq_some_iff.mp added
    have single : differenceLine ('+' :: rest) =
        [(genericKind "Inserted".toList, '+' :: rest)] := by
      simp [differenceLine]
    refine ⟨front, (blankKind, ['\n']) :: lexFrom differenceStep 0 () behind, ?_, spells⟩
    show lexFrom differenceStep 0 () (Listing.prepared _) = _
    rw [prepared_eq_self prepared.1 prepared.2, cut, lexFrom_endedLine oneLine, endedLine, single]
    rfl
  unended := by
    intro before line prepared ended oneLine
    obtain ⟨front, spells, cut⟩ := exists_lexFrom_append ended
    refine ⟨front, ?_, spells⟩
    show lexFrom differenceStep 0 () (Listing.prepared _) = _
    rw [prepared_eq_self prepared.1 prepared.2, cut, lexFrom_lastLine oneLine]
    rfl

/-! ### Added lines -/

/-- A token of an inserted line is written as one span. -/
theorem format_inserted {line : Text} (added : line.head? = some '+') (oneLine : '\n' ∉ line)
    (noReturn : '\r' ∉ line) (noTab : '\t' ∉ line) :
    format {} [(["Generic".toList, "Inserted".toList], line)] =
      "<span class=\"hljs-addition\">".toList ++ Html.escapeAll line ++ "</span>".toList := by
  obtain ⟨rest, rfl⟩ := List.head?_eq_some_iff.mp added
  have written : format {} [(["Generic".toList, "Inserted".toList], '+' :: rest)] =
      Text.join ['\n'] ((Text.lines (shown {} ('+' :: rest))).map
        (wrapLine ("hljs-".toList ++ "addition".toList))) := by
    rw [format_eq_flatMap_runs]
    exact List.append_nil _
  have visible : Html.escapeAll ('+' :: rest) = '+' :: Html.escapeAll rest := rfl
  rw [written, Text.lines_of_oneLine (lineEnd_not_mem_shown plain_default oneLine noReturn),
    shown_of_no_tab {} noTab, visible]
  rfl

/-- The errors of a line spell it and have no category. -/
theorem format_errors (style : Style) (line : Text) :
    spelling (line.map fun c => (["Error".toList], [c])) = line ∧
      format style (line.map fun c => (["Error".toList], [c])) = shown style line := by
  have spells : spelling (line.map fun c => (["Error".toList], [c])) = line := by
    unfold spelling
    rw [List.flatMap_map]
    exact List.flatMap_singleton' line
  have plain : ∀ token ∈ line.map fun c => ((["Error".toList], [c]) : Token),
      category token.1 = none := by
    intro token member
    obtain ⟨c, -, rfl⟩ := List.mem_map.mp member
    rfl
  exact ⟨spells, by rw [format_of_plain plain, spells]⟩

section

variable {lexer : Lexer} {before line : Text}

/-- The row of an added line with a line end holds one span around the line. -/
theorem getElem?_rowContents_inserted (cuts : CutsDifferences lexer) {behind : Text}
    (prepared : IsPrepared (before ++ (line ++ '\n' :: behind)))
    (ended : ∀ last ∈ before.getLast?, last = '\n') (oneLine : '\n' ∉ line)
    (added : line.head? = some '+') (noTab : '\t' ∉ line) :
    (rowContents (format {} (lexer.tokens
        (before ++ (line ++ '\n' :: behind)))))[before.count '\n']? =
      some ("<span class=\"hljs-addition\">".toList ++ Html.escapeAll line ++
        "</span>".toList) := by
  have noReturn := prepared.1
  have noReturnInLine : '\r' ∉ line := fun member =>
    noReturn (List.mem_append_right _ (List.mem_append_left _ member))
  obtain ⟨front, back, tokens, spellsFront⟩ := cuts.inserted prepared ended oneLine added
  have whole : lexer.tokens (before ++ (line ++ '\n' :: behind)) =
      front ++ ([(["Generic".toList, "Inserted".toList], line)] ++ back) := tokens
  have spells := cuts.spells prepared
  have spellsLine : spelling [(["Generic".toList, "Inserted".toList], line)] = line := by
    rw [spelling_cons, spelling_nil, List.append_nil]
  rw [whole] at spells ⊢
  have spellsBack : spelling back = '\n' :: behind := by
    rw [spelling_append, spelling_append, spellsFront, spellsLine] at spells
    exact List.append_cancel_left (List.append_cancel_left spells)
  have closes : ∀ first ∈ (spelling back).head?, first = '\n' := by
    rw [spellsBack]
    rintro first ⟨⟩
    rfl
  have row := @getElem?_rowContents {} plain_default isNamed_default front _ back
    (by rwa [spells]) (by rwa [spellsLine]) (by rwa [spellsFront]) closes
  rwa [spellsFront, format_inserted added oneLine noReturnInLine noTab] at row

/-- The row of a last line without a line end holds the line alone. -/
theorem getElem?_rowContents_unended (cuts : CutsDifferences lexer)
    (prepared : IsPrepared (before ++ line)) (ended : ∀ last ∈ before.getLast?, last = '\n')
    (oneLine : '\n' ∉ line) (noTab : '\t' ∉ line) :
    (rowContents (format {} (lexer.tokens (before ++ line))))[before.count '\n']? =
      some (Html.escapeAll line) := by
  have noReturn := prepared.1
  obtain ⟨front, tokens, spellsFront⟩ := cuts.unended prepared ended oneLine
  obtain ⟨spellsLine, written⟩ := format_errors {} line
  have whole : lexer.tokens (before ++ line) =
      front ++ (line.map (fun c => (["Error".toList], [c])) ++ []) := by
    rw [List.append_nil]
    exact tokens
  have spells := cuts.spells prepared
  rw [whole] at spells ⊢
  have row := @getElem?_rowContents {} plain_default isNamed_default front _ []
    (by rwa [spells]) (by rwa [spellsLine]) (by rwa [spellsFront]) nofun
  rwa [spellsFront, written, shown_of_no_tab {} noTab] at row

end

/-- In a listing of differences a line that starts with a plus sign is marked as an addition as long
as a line end follows it in the code; as the last line it is shown without a span. This holds for
all code without carriage returns, tabs and byte order mark, all options and every lexer of which
is known what is known about a lexer for differences. The listing has one numbered row for each
line of the code, and the row of an added line holds one span around the whole line, or the line
alone where it is the last one. -/
theorem added_line_marked_unless_last (setting : Setting) (state : RenderState) (code : Text)
    (noReturn : '\r' ∉ code) (noTab : '\t' ∉ code) (noMark : code.head? ≠ some '\uFEFF')
    (cuts : CutsDifferences (setting.tools.lexers.choose ["diff".toList])) :
    ∃ (html : Text) (contents : List Text),
      ((Call.code (code ++ ['\n']) (some "diff".toList)).run setting state).result = .ok html ∧
      html = markerHtml (state.enter .code none).1 ++
        ("<div class=\"code code-diff\">\n<table class=\"code-table\">\n".toList ++
          (numberedRows contents ++ "</table>\n</div>\n".toList)) ∧
      contents.length = (Text.lines code).length ∧
      ∀ (index : Nat) (line : Text), (Text.lines code)[index]? = some line →
        line.head? = some '+' →
          contents[index]? = some (if index + 1 < (Text.lines code).length then
            "<span class=\"hljs-addition\">".toList ++ Html.escapeAll line ++ "</span>".toList
          else Html.escapeAll line) := by
  have language : languageOf (some "diff".toList) = "diff".toList := by decide
  have spells : spelling (tokensOf setting "diff".toList code) = code :=
    cuts.spells ⟨noReturn, noMark⟩
  have written := @result_code setting state code "diff".toList (by decide) (by decide)
  rw [language, renderRowsFrom_one, format_of_no_tab _ ['\t'] (by rwa [spells])] at written
  have shows := (rowContents_format plain_default isNamed_default noReturn spells).1
  refine ⟨_, rowContents (format {} (tokensOf setting "diff".toList code)), written, rfl, ?_, ?_⟩
  · have lengths := congrArg List.length shows
    rwa [List.length_map, List.length_map] at lengths
  · intro index line found added
    have inLines := Text.mem_of_mem_lines (List.mem_of_getElem? found)
    have oneLine : '\n' ∉ line := fun member => (inLines _ member).2 rfl
    have noTabInLine : '\t' ∉ line := fun member => noTab (inLines _ member).1
    rw [Text.lines_eq_splitOnP] at found
    obtain ⟨before, behind, rfl, count, opens, closes⟩ := Text.exists_of_getElem?_splitOnP found
    obtain rfl : before.count '\n' = index := count
    have ended : ∀ last ∈ before.getLast?, last = '\n' := fun last member =>
      beq_iff_eq.mp (opens last member)
    have lines : (Text.lines (before ++ (line ++ behind))).length =
        before.count '\n' + behind.count '\n' + 1 := by
      rw [Text.length_lines, List.count_append, List.count_append,
        List.count_eq_zero.mpr oneLine, Nat.zero_add]
    -- A line is the last one exactly if nothing is behind it.
    cases behind with
    | nil =>
      have isLast : ¬ before.count '\n' + 1 < (Text.lines (before ++ (line ++ []))).length := by
        rw [lines]
        exact Nat.lt_irrefl _
      rw [List.append_nil] at noReturn noMark
      rw [if_neg isLast, List.append_nil]
      exact getElem?_rowContents_unended cuts ⟨noReturn, noMark⟩ ended oneLine noTabInLine
    | cons stop rest =>
      obtain rfl : stop = '\n' := beq_iff_eq.mp (closes stop rfl)
      have followed : before.count '\n' + 1 <
          (Text.lines (before ++ (line ++ '\n' :: rest))).length := by
        rw [lines, List.count_cons_self]
        omega
      rw [if_pos followed]
      exact getElem?_rowContents_inserted cuts ⟨noReturn, noMark⟩ ended oneLine added noTabInLine

/-- Of two added lines the first one is marked. -/
theorem added_line_marked_in_front_of_another :
    let setting : Setting := ⟨{}, .ofFiles []⟩
    let code := "+a < b\n+c".toList
    '\r' ∉ code ∧ '\t' ∉ code ∧ code.head? ≠ some '\uFEFF' ∧
      CutsDifferences (setting.tools.lexers.choose ["diff".toList]) ∧
      ∃ (html : Text) (contents : List Text),
        ((Call.code (code ++ ['\n']) (some "diff".toList)).run setting (.fresh 1)).result =
          .ok html ∧
        html = "<div class=\"code code-diff\">\n<table class=\"code-table\">\n".toList ++
          (numberedRows contents ++ "</table>\n</div>\n".toList) ∧
        contents =
          ["<span class=\"hljs-addition\">+a &lt; b</span>".toList, "+c".toList] := by
  intro setting code
  have noReturn : '\r' ∉ code := by decide
  have noTab : '\t' ∉ code := by decide
  have noMark : code.head? ≠ some '\uFEFF' := by decide
  have cuts : CutsDifferences (setting.tools.lexers.choose ["diff".toList]) :=
    cutsDifferences_differences
  obtain ⟨html, contents, rendered, written, size, each⟩ := added_line_marked_unless_last setting
    (.fresh 1) code noReturn noTab noMark cuts
  have first := each 0 "+a < b".toList (by decide) (by decide)
  have second := each 1 "+c".toList (by decide) (by decide)
  refine ⟨noReturn, noTab, noMark, cuts, html, contents, rendered, written, ?_⟩
  have two : contents.length = 2 := size
  obtain ⟨left, right, rfl⟩ := List.length_eq_two.mp two
  rw [Option.some.inj first, Option.some.inj second]
  decide

/-- The markup of an added line may depend on its place: as the last line it is no span. -/
theorem last_added_line_may_be_unmarked :
    ¬ ∀ (setting : Setting) (state : RenderState) (code : Text),
      '\r' ∉ code → '\t' ∉ code → code.head? ≠ some '\uFEFF' →
      CutsDifferences (setting.tools.lexers.choose ["diff".toList]) →
      ∀ (index : Nat) (line html : Text),
        (Text.lines code)[index]? = some line → line.head? = some '+' →
        ((Call.code (code ++ ['\n']) (some "diff".toList)).run setting state).result = .ok html →
        numberedRow index ("<span class=\"hljs-addition\">".toList ++ Html.escapeAll line ++
          "</span>".toList) <:+: html := by
  intro always
  let setting : Setting := ⟨{}, .ofFiles []⟩
  have written := @result_code setting (.fresh 1) "+a".toList "diff".toList (by decide) (by decide)
  have marked := always setting (.fresh 1) "+a".toList (by decide) (by decide) (by decide)
    cutsDifferences_differences 0 "+a".toList _ rfl rfl written
  rw [← Text.occursIn_iff (by decide)] at marked
  exact absurd marked (by decide +kernel)

end Listing

end BookMarkup
