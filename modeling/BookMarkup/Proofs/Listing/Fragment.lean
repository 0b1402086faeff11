/-
This file takes highlighted markup apart. It consists of fragments, which are single
characters and spans that hold text alone. The fragments of tokens show what the tokens
spell, no span among them crosses a line end, and no character outside of a span starts
a tag.
-/

import BookMarkup.Proofs.Html.Attribute
import BookMarkup.Proofs.Listing.Run
import BookMarkup.Proofs.Text.Line

namespace BookMarkup

namespace Listing

/-! ### Fragments -/

/-- A part of highlighted markup. -/
inductive Fragment where
  /-- A character outside of spans. -/
  | char (c : Char)
  /-- A span with its class and the text in it. -/
  | span (className text : Text)
  deriving DecidableEq

namespace Fragment

/-- The markup of a fragment. -/
def html : Fragment → Text
  | char c => [c]
  | span className text => spanStart className ++ text ++ spanEnd

/-- The text that a fragment shows. -/
def text : Fragment → Text
  | char c => [c]
  | span _ text => text

/-- Whether a fragment is a line end. -/
def isLineEnd (fragment : Fragment) : Bool :=
  fragment == char '\n'

end Fragment

/-- A character that a class attribute may hold. -/
def isClassChar (c : Char) : Bool :=
  c.isAlphanum || c == '-' || c == '_' || c == ' '

/-- A character that stands for itself in a line of markup. -/
def IsLineChar (c : Char) : Prop :=
  c ≠ '<' ∧ c ≠ '\n' ∧ c ≠ '\r'

/-- Whether a fragment is written so that a tag starts and ends where it should and a line end is
a fragment of its own. -/
def Fragment.IsSound : Fragment → Prop
  | char c => c = '\n' ∨ IsLineChar c
  | span className text => (∀ c ∈ className, isClassChar c = true) ∧ ∀ c ∈ text, IsLineChar c

/-- Whether a fragment starts no tag but its own, which ends where it is written to end, and holds
no line end unless it is one. -/
def Fragment.IsFlat : Fragment → Prop
  | char c => c ≠ '<'
  | span className text => ('>' ∉ className ∧ '\n' ∉ className) ∧ '<' ∉ text ∧ '\n' ∉ text

/-- Whether a fragment starts no tag but its own, which end where they are written to end. -/
def Fragment.IsClosed : Fragment → Prop
  | char c => c ≠ '<'
  | span className text => '>' ∉ className ∧ '<' ∉ text

/-- Whether a fragment starts no tag but its own, and its class can be read off its start tag. -/
def Fragment.IsProper : Fragment → Prop
  | char c => c ≠ '<'
  | span className text => ('"' ∉ className ∧ '<' ∉ className ∧ '>' ∉ className) ∧ '<' ∉ text

theorem Fragment.IsFlat.isClosed {fragment : Fragment} (flat : fragment.IsFlat) :
    fragment.IsClosed := by
  cases fragment with
  | char c => exact flat
  | span className text => exact ⟨flat.1.1, flat.2.1⟩

theorem Fragment.IsProper.isClosed {fragment : Fragment} (proper : fragment.IsProper) :
    fragment.IsClosed := by
  cases fragment with
  | char c => exact proper
  | span className text => exact ⟨proper.1.2.2, proper.2⟩

/-- A class character ends no tag, no attribute and no line. -/
theorem plain_of_isClassChar {c : Char} (inClass : isClassChar c = true) :
    IsLineChar c ∧ c ≠ '>' ∧ c ≠ '"' := by
  refine ⟨⟨?_, ?_, ?_⟩, ?_, ?_⟩ <;> rintro rfl <;> exact absurd inClass (by decide)

theorem Fragment.IsSound.isFlat {fragment : Fragment} (sound : fragment.IsSound) :
    fragment.IsFlat := by
  cases fragment with
  | char c =>
    rcases sound with rfl | lineChar
    · show '\n' ≠ '<'
      decide
    · exact lineChar.1
  | span className text =>
    obtain ⟨inClass, inText⟩ := sound
    exact ⟨⟨fun member => (plain_of_isClassChar (inClass _ member)).2.1 rfl,
      fun member => (plain_of_isClassChar (inClass _ member)).1.2.1 rfl⟩,
      fun member => (inText _ member).1 rfl, fun member => (inText _ member).2.1 rfl⟩

theorem Fragment.IsSound.isProper {fragment : Fragment} (sound : fragment.IsSound) :
    fragment.IsProper := by
  cases fragment with
  | char c => exact sound.isFlat
  | span className text =>
    obtain ⟨inClass, inText⟩ := sound
    exact ⟨⟨fun member => (plain_of_isClassChar (inClass _ member)).2.2 rfl,
      fun member => (plain_of_isClassChar (inClass _ member)).1.1 rfl,
      fun member => (plain_of_isClassChar (inClass _ member)).2.1 rfl⟩,
      fun member => (inText _ member).1 rfl⟩

/-! ### Shown text -/

theorem shown_append (style : Style) (left right : Text) :
    shown style (left ++ right) = shown style left ++ shown style right := by
  unfold shown Text.replaceChar Html.escapeAll
  rw [List.flatMap_append, List.flatMap_append]

/-- What one character is shown as. -/
def shownChar (style : Style) (c : Char) : Text :=
  shown style [c]

theorem shown_eq_flatMap (style : Style) (text : Text) :
    shown style text = text.flatMap (shownChar style) := by
  induction text with
  | nil => rfl
  | cons head rest inductionHypothesis =>
    rw [List.flatMap_cons, ← inductionHypothesis, ← List.singleton_append, shown_append]
    rfl

theorem shownChar_lineEnd (style : Style) : shownChar style '\n' = ['\n'] := rfl

/-- Whether a style replaces tabs by characters that stand for themselves. -/
def Style.IsPlain (style : Style) : Prop :=
  ∀ c ∈ style.tabReplacement, IsLineChar c

theorem isLineChar_of_mem_escapeChar {c written : Char} (plain : c ≠ '\n' ∧ c ≠ '\r')
    (member : written ∈ Html.escapeChar c) : IsLineChar written := by
  have notReserved := Html.not_reserved_of_mem_escapeChar member
  have references : ∀ c ∈ "&;#39amplgtquo".toList, c ≠ '<' ∧ c ≠ '\n' ∧ c ≠ '\r' := by decide
  rcases Html.mem_escapeChar member with rfl | inReference
  · refine ⟨?_, plain⟩
    rintro rfl
    exact absurd notReserved (by decide)
  · exact references written inReference

/-- What another character than a line end is shown as stays on its line and starts no tag. -/
theorem isLineChar_of_mem_shownChar {style : Style} (plainStyle : style.IsPlain) {c written : Char}
    (plain : c ≠ '\n' ∧ c ≠ '\r') (member : written ∈ shownChar style c) : IsLineChar written := by
  unfold shownChar shown Text.replaceChar Html.escapeAll at member
  rw [List.flatMap_singleton] at member
  obtain ⟨escaped, inEscape, inWritten⟩ := List.mem_flatMap.mp member
  split at inWritten
  · exact plainStyle written inWritten
  · rw [List.mem_singleton.mp inWritten]
    exact isLineChar_of_mem_escapeChar plain inEscape

/-- The lines of shown text are the lines of the text, shown. -/
theorem lines_shown {style : Style} (plainStyle : style.IsPlain) {text : Text}
    (noReturn : '\r' ∉ text) :
    Text.lines (shown style text) = (Text.lines text).map (shown style) := by
  have each : shown style = fun line => line.flatMap (shownChar style) :=
    funext (shown_eq_flatMap style)
  rw [each, Text.lines_flatMap (· == '\n') (shownChar style), Text.lines_eq_splitOnP]
  · intro c _ lineEnd
    rw [beq_iff_eq.mp lineEnd, shownChar_lineEnd]
  · intro c member other written
    have plain : c ≠ '\n' ∧ c ≠ '\r' :=
      ⟨beq_eq_false_iff_ne.mp other, fun equal => noReturn (equal ▸ member)⟩
    exact (isLineChar_of_mem_shownChar plainStyle plain written).2.1 rfl

/-- A character of shown text is a line end or stands for itself. -/
theorem sound_of_mem_shown {style : Style} (plainStyle : style.IsPlain) {text : Text}
    (noReturn : '\r' ∉ text) {c : Char} (member : c ∈ shown style text) :
    c = '\n' ∨ IsLineChar c := by
  rw [shown_eq_flatMap] at member
  obtain ⟨source, inText, written⟩ := List.mem_flatMap.mp member
  by_cases lineEnd : source = '\n'
  · left
    rw [lineEnd, shownChar_lineEnd] at written
    exact List.mem_singleton.mp written
  · right
    exact isLineChar_of_mem_shownChar plainStyle
      ⟨lineEnd, fun equal => noReturn (equal ▸ inText)⟩ written

/-! ### The fragments of a run -/

/-- The fragments of a line in a class. -/
def lineFragments (className line : Text) : List Fragment :=
  if line.isEmpty then [] else [.span className line]

/-- The fragments that lines are written as, with line ends between the lines. -/
def joinFragments (write : Text → List Fragment) : List Text → List Fragment
  | [] => []
  | [only] => write only
  | first :: second :: others =>
    write first ++ .char '\n' :: joinFragments write (second :: others)

/-- The fragments of a run. -/
def runFragments (style : Style) : Run → List Fragment
  | (none, text) => (shown style text).map .char
  | (some category, text) =>
    joinFragments (lineFragments (style.classStart ++ category)) (Text.lines (shown style text))

theorem html_lineFragments (className line : Text) :
    (lineFragments className line).flatMap Fragment.html = wrapLine className line := by
  unfold lineFragments wrapLine
  split
  · rfl
  · exact List.append_nil _

theorem text_lineFragments (className line : Text) :
    (lineFragments className line).flatMap Fragment.text = line := by
  unfold lineFragments
  split
  · next empty => exact (List.isEmpty_iff.mp empty).symm
  · exact List.append_nil _

/-- Whatever the fragments of lines are viewed as, line ends between the lines are between the
views. -/
theorem flatMap_joinFragments {view : Fragment → Text} (lineEnd : view (.char '\n') = ['\n'])
    (write : Text → List Fragment) (lines : List Text) :
    (joinFragments write lines).flatMap view =
      Text.join ['\n'] (lines.map fun line => (write line).flatMap view) := by
  fun_induction joinFragments write lines with
  | case1 => rfl
  | case2 only => rfl
  | case3 first second others inductionHypothesis =>
    rw [List.flatMap_append, List.flatMap_cons, lineEnd, inductionHypothesis]
    simp only [List.map_cons, Text.join, List.append_assoc]

theorem html_linesFragments (className : Text) (lines : List Text) :
    (joinFragments (lineFragments className) lines).flatMap Fragment.html =
      Text.join ['\n'] (lines.map (wrapLine className)) := by
  rw [flatMap_joinFragments rfl, funext (html_lineFragments className)]

theorem text_linesFragments (className : Text) (lines : List Text) :
    (joinFragments (lineFragments className) lines).flatMap Fragment.text =
      Text.join ['\n'] lines := by
  rw [flatMap_joinFragments rfl, funext (text_lineFragments className), List.map_id']

/-- The fragments of a run are its markup. -/
theorem html_runFragments (style : Style) (run : Run) :
    (runFragments style run).flatMap Fragment.html = renderRun style run := by
  obtain ⟨category, text⟩ := run
  cases category with
  | none =>
    rw [runFragments, renderRun, List.flatMap_map]
    exact List.flatMap_singleton' _
  | some category => exact html_linesFragments _ _

/-- The fragments of a run show its text. -/
theorem text_runFragments (style : Style) (run : Run) :
    (runFragments style run).flatMap Fragment.text = shown style run.2 := by
  obtain ⟨category, text⟩ := run
  cases category with
  | none =>
    rw [runFragments, List.flatMap_map]
    exact List.flatMap_singleton' _
  | some category =>
    rw [runFragments, text_linesFragments]
    exact Text.join_parts '\n' _

/-! ### Soundness -/

/-- Among the fragments of lines are line ends and the fragments of one of the lines. -/
theorem mem_joinFragments {write : Text → List Fragment} {lines : List Text} {fragment : Fragment}
    (member : fragment ∈ joinFragments write lines) :
    fragment = .char '\n' ∨ ∃ line ∈ lines, fragment ∈ write line := by
  fun_induction joinFragments write lines with
  | case1 => cases member
  | case2 only => exact Or.inr ⟨only, List.mem_cons_self, member⟩
  | case3 first second others inductionHypothesis =>
    rcases List.mem_append.mp member with inFirst | later
    · exact Or.inr ⟨first, List.mem_cons_self, inFirst⟩
    · rcases List.mem_cons.mp later with lineEnd | inOthers
      · exact Or.inl lineEnd
      · exact (inductionHypothesis inOthers).imp_right fun ⟨line, inLines, inLine⟩ =>
          ⟨line, List.mem_cons_of_mem _ inLines, inLine⟩

/-- Among those of lines in a class, the others are spans with one of the lines in them. -/
theorem mem_linesFragments {className : Text} {lines : List Text} {fragment : Fragment}
    (member : fragment ∈ joinFragments (lineFragments className) lines) :
    fragment = .char '\n' ∨ ∃ line ∈ lines, fragment = .span className line := by
  refine (mem_joinFragments member).imp_right fun ⟨line, inLines, inLine⟩ => ⟨line, inLines, ?_⟩
  unfold lineFragments at inLine
  split at inLine
  · cases inLine
  · exact List.mem_singleton.mp inLine

theorem isSound_of_mem_linesFragments {className : Text} {lines : List Text}
    (inClass : ∀ c ∈ className, isClassChar c = true)
    (lineChars : ∀ line ∈ lines, ∀ c ∈ line, IsLineChar c) :
    ∀ fragment ∈ joinFragments (lineFragments className) lines, fragment.IsSound := by
  intro fragment member
  rcases mem_linesFragments member with rfl | ⟨line, inLines, rfl⟩
  · exact Or.inl rfl
  · exact ⟨inClass, lineChars line inLines⟩

/-- Every category is a class name. -/
theorem isClassChar_of_mem_category {kind : TokenKind} {name : Text}
    (known : category kind = some name) : ∀ c ∈ name, isClassChar c = true := by
  obtain ⟨row, found, rfl⟩ := Option.map_eq_some_iff.mp known
  have all : ∀ row ∈ categoryTable, ∀ c ∈ row.2, isClassChar c = true := by decide
  exact all row (List.mem_of_find?_eq_some found)

/-- Whether the classes of a style hold class characters alone. -/
def Style.IsNamed (style : Style) : Prop :=
  ∀ c ∈ style.classStart, isClassChar c = true

theorem isSound_of_mem_runFragments {style : Style} (plainStyle : style.IsPlain)
    (named : style.IsNamed) {run : Run}
    (inClass : ∀ name, run.1 = some name → ∀ c ∈ name, isClassChar c = true)
    (noReturn : '\r' ∉ run.2) : ∀ fragment ∈ runFragments style run, fragment.IsSound := by
  obtain ⟨category, text⟩ := run
  cases category with
  | none =>
    intro fragment member
    obtain ⟨c, inShown, rfl⟩ := List.mem_map.mp member
    exact sound_of_mem_shown plainStyle noReturn inShown
  | some name =>
    refine isSound_of_mem_linesFragments ?_ ?_
    · intro c member
      rcases List.mem_append.mp member with inStart | inName
      · exact named c inStart
      · exact inClass name rfl c inName
    · intro line inLines c inLine
      obtain ⟨inShown, other⟩ := Text.mem_of_mem_lines inLines c inLine
      exact (sound_of_mem_shown plainStyle noReturn inShown).resolve_left other

/-! ### The fragments of tokens -/

/-- The fragments of tokens. -/
def fragments (style : Style) (tokens : List Token) : List Fragment :=
  (runs tokens).flatMap (runFragments style)

/-- The fragments of tokens are their markup. -/
theorem html_fragments (style : Style) (tokens : List Token) :
    (fragments style tokens).flatMap Fragment.html = format style tokens := by
  have each : (fun run => (runFragments style run).flatMap Fragment.html) = renderRun style :=
    funext (html_runFragments style)
  rw [format_eq_flatMap_runs, fragments, List.flatMap_assoc, each]

/-- The fragments of tokens show what the tokens spell. -/
theorem text_fragments (style : Style) (tokens : List Token) :
    (fragments style tokens).flatMap Fragment.text = shown style (spelling tokens) := by
  have each : (fun run => (runFragments style run).flatMap Fragment.text) =
      fun run => run.2.flatMap (shownChar style) :=
    funext fun run => (text_runFragments style run).trans (shown_eq_flatMap style run.2)
  unfold fragments
  rw [List.flatMap_assoc, each, ← text_runs, shown_eq_flatMap, List.flatMap_assoc]

theorem isSound_of_mem_fragments {style : Style} (plainStyle : style.IsPlain)
    (named : style.IsNamed) {tokens : List Token} (noReturn : '\r' ∉ spelling tokens) :
    ∀ fragment ∈ fragments style tokens, fragment.IsSound := by
  intro fragment member
  obtain ⟨run, inRuns, inRun⟩ := List.mem_flatMap.mp member
  refine isSound_of_mem_runFragments plainStyle named ?_ ?_ fragment inRun
  · intro name equal
    obtain ⟨kind, ofKind⟩ := exists_kind_of_mem_runs inRuns
    exact isClassChar_of_mem_category (ofKind.symm.trans equal)
  · intro inText
    refine noReturn ?_
    rw [← text_runs]
    exact List.mem_flatMap.mpr ⟨run, inRuns, inText⟩

/-- Every fragment of tokens shows something. -/
theorem text_ne_nil_of_mem_fragments {style : Style} {tokens : List Token} {fragment : Fragment}
    (member : fragment ∈ fragments style tokens) : fragment.text ≠ [] := by
  obtain ⟨⟨category, text⟩, -, inRun⟩ := List.mem_flatMap.mp member
  cases category with
  | none =>
    obtain ⟨c, -, rfl⟩ := List.mem_map.mp inRun
    exact List.cons_ne_nil _ _
  | some name =>
    rcases mem_joinFragments inRun with rfl | ⟨line, -, inLine⟩
    · exact List.cons_ne_nil _ _
    · unfold lineFragments at inLine
      split at inLine
      · cases inLine
      · next visible =>
        rw [List.mem_singleton.mp inLine]
        exact mt List.isEmpty_iff.mpr visible

/-! ### Tokens that meet at a line end -/

/-- Whether two texts meet at a line end: the first one ends with a newline or is empty, or the
second one starts with a newline or is empty. -/
def MeetAtLineEnd (left right : Text) : Prop :=
  (∀ last ∈ left.getLast?, last = '\n') ∨ ∀ first ∈ right.head?, first = '\n'

theorem joinFragments_append (write : Text → List Fragment) {left right : List Text}
    (someLeft : left ≠ []) (someRight : right ≠ []) :
    joinFragments write (left ++ right) =
      joinFragments write left ++ .char '\n' :: joinFragments write right := by
  induction left with
  | nil => exact absurd rfl someLeft
  | cons first others inductionHypothesis =>
    cases others with
    | nil =>
      obtain ⟨next, later, rfl⟩ := List.exists_cons_of_ne_nil someRight
      rfl
    | cons second later =>
      have behind := inductionHypothesis (List.cons_ne_nil _ _)
      rw [List.cons_append] at behind ⊢
      rw [List.cons_append, joinFragments, behind, joinFragments, List.append_assoc]
      rfl

section

variable {style : Style}

theorem runFragments_nil (category : Option Text) : runFragments style (category, []) = [] := by
  cases category <;> rfl

/-- A run is cut at its line ends. -/
theorem runFragments_lineEnd (category : Option Text) (left right : Text) :
    runFragments style (category, left ++ '\n' :: right) =
      runFragments style (category, left) ++ .char '\n' :: runFragments style (category, right) := by
  have written : shown style (left ++ '\n' :: right) =
      shown style left ++ '\n' :: shown style right := by
    simp only [shown_eq_flatMap, List.flatMap_append, List.flatMap_cons, shownChar_lineEnd]
    rfl
  cases category with
  | none =>
    simp only [runFragments, written, List.map_append, List.map_cons]
  | some name =>
    simp only [runFragments, written, Text.lines_append_lineEnd]
    exact joinFragments_append _ (Text.parts_ne_nil _ _) (Text.parts_ne_nil _ _)

/-- So where two texts of a run meet at a line end, their fragments stand side by side. -/
theorem runFragments_append (category : Option Text) {left right : Text}
    (meet : MeetAtLineEnd left right) :
    runFragments style (category, left ++ right) =
      runFragments style (category, left) ++ runFragments style (category, right) := by
  rcases meet with ends | starts
  · cases final : left.getLast? with
    | none =>
      rw [List.getLast?_eq_none_iff.mp final, runFragments_nil]
      rfl
    | some last =>
      obtain ⟨front, rfl⟩ := List.getLast?_eq_some_iff.mp final
      rw [ends last final, List.append_assoc, List.singleton_append, runFragments_lineEnd,
        runFragments_lineEnd, runFragments_nil, List.append_assoc]
      rfl
  · cases right with
    | nil => rw [runFragments_nil, List.append_nil, List.append_nil]
    | cons first rest =>
      have alone := @runFragments_lineEnd style category [] rest
      rw [runFragments_nil, List.nil_append, List.nil_append] at alone
      rw [starts first rfl, runFragments_lineEnd, alone]

/-- Tokens whose texts meet at a line end give the same fragments together as apart. -/
theorem fragments_append {front behind : List Token}
    (meet : MeetAtLineEnd (spelling front) (spelling behind)) :
    fragments style (front ++ behind) = fragments style front ++ fragments style behind := by
  cases front with
  | nil => rfl
  | cons token others =>
    obtain ⟨before, last, alone, followed⟩ := exists_runs_append (List.cons_ne_nil token others)
    have grown : (addRun last (runs behind)).flatMap (runFragments style) =
        runFragments style last ++ (runs behind).flatMap (runFragments style) := by
      rw [← text_runs, ← text_runs, alone, List.flatMap_append, List.flatMap_singleton] at meet
      cases equal : runs behind with
      | nil => rfl
      | cons first later =>
        by_cases same : last.1 = first.1
        · have close : MeetAtLineEnd last.2 first.2 := by
            refine meet.imp (fun ends final isLast => ends final ?_) fun starts start isFirst =>
              starts start ?_
            · rw [List.getLast?_append, Option.mem_def.mp isLast]
              rfl
            · rw [equal, List.flatMap_cons, List.head?_append, Option.mem_def.mp isFirst]
              rfl
          have pieces := @runFragments_append style last.1 last.2 first.2 close
          rw [addRun, if_pos same, List.flatMap_cons, List.flatMap_cons, pieces, List.append_assoc]
          rw [show (last.1, first.2) = first from Prod.ext same rfl]
        · rw [addRun, if_neg same, List.flatMap_cons]
    unfold fragments
    rw [followed, alone, List.flatMap_append, List.flatMap_append, grown, List.flatMap_singleton,
      List.append_assoc]

end

end Listing

end BookMarkup
