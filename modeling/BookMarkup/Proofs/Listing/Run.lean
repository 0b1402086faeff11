/-
This file proves that formatting depends on nothing but the runs of neighbouring tokens of one
category. The formatter goes through the tokens with a category and the texts that are pending
in it. From the first token on some text is pending, if only an empty one, so that no pending
text means that no token was read yet. The pending texts are then a run in front of those of
the tokens that are left, which grows while the category stays and is written whole once it
changes. So where the tokens of a run are cut does not show.
-/

import BookMarkup.Listing.Highlight
import Mathlib.Data.List.SplitBy

namespace BookMarkup

namespace Listing

/-! ### Runs -/

/-- Puts a run in front of others; it grows into a first one of the same category. -/
def addRun (run : Run) : List Run → List Run
  | [] => [run]
  | first :: others =>
    if run.1 = first.1 then (run.1, run.2 ++ first.2) :: others else run :: first :: others

/-- The runs of tokens: neighbours of the same category are joined. -/
def runs : List Token → List Run
  | [] => []
  | (kind, text) :: others => addRun (category kind, text) (runs others)

theorem text_addRun (run : Run) (others : List Run) :
    (addRun run others).flatMap Prod.snd = run.2 ++ others.flatMap Prod.snd := by
  unfold addRun
  split
  · rfl
  · split
    · rw [List.flatMap_cons, List.flatMap_cons, List.append_assoc]
    · rfl

/-- Runs spell what their tokens spell. -/
theorem text_runs (tokens : List Token) : (runs tokens).flatMap Prod.snd = spelling tokens := by
  induction tokens with
  | nil => rfl
  | cons token others inductionHypothesis =>
    rw [runs, text_addRun, inductionHypothesis]
    rfl

theorem fst_addRun {run : Run} {others : List Run} {found : Run}
    (member : found ∈ addRun run others) : found.1 = run.1 ∨ found ∈ others := by
  unfold addRun at member
  split at member
  · exact Or.inl (congrArg Prod.fst (List.mem_singleton.mp member))
  · split at member
    · rcases List.mem_cons.mp member with rfl | later
      · exact Or.inl rfl
      · exact Or.inr (List.mem_cons_of_mem _ later)
    · rcases List.mem_cons.mp member with rfl | later
      · exact Or.inl rfl
      · exact Or.inr later

/-- A run has the category of a token kind. -/
theorem exists_kind_of_mem_runs {tokens : List Token} {run : Run} (member : run ∈ runs tokens) :
    ∃ kind, run.1 = category kind := by
  induction tokens with
  | nil => cases member
  | cons token others inductionHypothesis =>
    rcases fst_addRun member with first | later
    · exact ⟨token.1, first⟩
    · exact inductionHypothesis later

/-- Whatever a run is put in front of, a run of its category comes first. -/
theorem exists_addRun_cons (run : Run) (others : List Run) :
    ∃ text later, addRun run others = (run.1, text) :: later := by
  cases others with
  | nil => exact ⟨_, _, rfl⟩
  | cons first later =>
    by_cases same : run.1 = first.1
    · exact ⟨_, _, if_pos same⟩
    · exact ⟨_, _, if_neg same⟩

/-- Two runs of one category are one run, in front of any others. -/
theorem addRun_addRun_self (category : Option Text) (front back : Text) (others : List Run) :
    addRun (category, front) (addRun (category, back) others) =
      addRun (category, front ++ back) others := by
  cases others with
  | nil => exact if_pos rfl
  | cons first later =>
    by_cases same : category = first.1
    · simp only [addRun, if_pos same, if_true, List.append_assoc]
    · simp only [addRun, if_neg same, if_true]

/-- A run ends in front of one of another category. -/
theorem addRun_addRun_of_ne {first second : Run} (differ : first.1 ≠ second.1)
    (others : List Run) : addRun first (addRun second others) = first :: addRun second others := by
  obtain ⟨text, later, equal⟩ := exists_addRun_cons second others
  rw [equal]
  exact if_neg differ

/-- Behind some tokens others form their own runs, except that the last run may grow into the first
of them. -/
theorem exists_runs_append {front : List Token} (some' : front ≠ []) :
    ∃ before last, runs front = before ++ [last] ∧
      ∀ behind, runs (front ++ behind) = before ++ addRun last (runs behind) := by
  induction front with
  | nil => exact absurd rfl some'
  | cons token others inductionHypothesis =>
    cases others with
    | nil => exact ⟨[], (category token.1, token.2), rfl, fun _ => rfl⟩
    | cons second later =>
      obtain ⟨before, last, alone, followed⟩ := inductionHypothesis (List.cons_ne_nil _ _)
      have whole (behind : List Token) : runs (token :: second :: later ++ behind) =
          addRun (category token.1, token.2) (before ++ addRun last (runs behind)) :=
        congrArg (addRun _) (followed behind)
      have one : runs (token :: second :: later) =
          addRun (category token.1, token.2) (before ++ [last]) := congrArg (addRun _) alone
      -- The first token grows into the run behind it or is a run of its own.
      cases before with
      | nil =>
        obtain ⟨name, text⟩ := last
        by_cases same : category token.1 = name
        · subst same
          refine ⟨[], (category token.1, token.2 ++ text), one.trans (if_pos rfl), fun behind => ?_⟩
          rw [whole, List.nil_append, addRun_addRun_self, List.nil_append]
        · refine ⟨[(category token.1, token.2)], (name, text), one.trans (if_neg same),
            fun behind => ?_⟩
          rw [whole, List.nil_append, addRun_addRun_of_ne same]
          rfl
      | cons first between =>
        by_cases same : category token.1 = first.1
        · exact ⟨(category token.1, token.2 ++ first.2) :: between, last, one.trans (if_pos same),
            fun behind => (whole behind).trans (if_pos same)⟩
        · exact ⟨(category token.1, token.2) :: first :: between, last, one.trans (if_neg same),
            fun behind => (whole behind).trans (if_neg same)⟩

/-! ### The formatter -/

section

variable {style : Style} {current : Option Text} {pending : List Text}

/-- As long as the category stays, texts are kept pending. -/
theorem formatFrom_cons_self (kind : TokenKind) (text : Text) (others : List Token) :
    formatFrom style (category kind) pending ((kind, text) :: others) =
      formatFrom style (category kind) (pending ++ [text]) others :=
  if_neg fun changes => changes.1 rfl

/-- A token of another category has the pending texts written. -/
theorem formatFrom_cons_of_ne (some' : pending ≠ []) {kind : TokenKind}
    (differ : category kind ≠ current) (text : Text) (others : List Token) :
    formatFrom style current pending ((kind, text) :: others) =
      renderRun style (current, pending.flatten) ++
        formatFrom style (category kind) [text] others :=
  if_pos ⟨differ, mt List.isEmpty_iff.mp some'⟩

/-- What is written behind pending texts is their run, put in front of the runs of the tokens. -/
theorem formatFrom_eq (some' : pending ≠ []) (tokens : List Token) :
    formatFrom style current pending tokens =
      (addRun (current, pending.flatten) (runs tokens)).flatMap (renderRun style) := by
  -- Every token leaves its own text pending at least, so that the formatter stays in this case.
  induction tokens generalizing current pending with
  | nil =>
    rw [formatFrom, if_neg (mt List.isEmpty_iff.mp some')]
    exact (List.append_nil _).symm
  | cons token others inductionHypothesis =>
    obtain ⟨kind, text⟩ := token
    by_cases same : category kind = current
    · subst same
      rw [formatFrom_cons_self, inductionHypothesis (List.append_ne_nil_of_right_ne_nil _
        (List.cons_ne_nil _ _)), List.flatten_concat, runs, addRun_addRun_self]
    · rw [formatFrom_cons_of_ne some' same, inductionHypothesis (List.cons_ne_nil _ _), runs,
        addRun_addRun_of_ne (Ne.symm same), List.flatMap_cons, List.flatten_singleton]

end

/-- The markup of tokens is that of their runs. -/
theorem format_eq_flatMap_runs (style : Style) (tokens : List Token) :
    format style tokens = (runs tokens).flatMap (renderRun style) := by
  cases tokens with
  | nil => rfl
  | cons token others =>
    obtain ⟨kind, text⟩ := token
    have first : format style ((kind, text) :: others) =
        formatFrom style (category kind) [text] others := if_neg fun changes => changes.2 rfl
    rw [first, formatFrom_eq (List.cons_ne_nil _ _), List.flatten_singleton, runs]

/-! ### Maximal runs -/

/-- Whether two tokens have the same category. -/
def sameCategory (first second : Token) : Bool :=
  category first.1 == category second.1

/-- The run that tokens of one category form. -/
def runOf (tokens : List Token) : Run :=
  (tokens.head?.bind fun token => category token.1, spelling tokens)

/-- Tokens that have the category of their neighbours have that of the first one. -/
theorem category_eq_of_isChain {first : Token} {others : List Token}
    (alike : (first :: others).IsChain fun left right => sameCategory left right) :
    ∀ token ∈ first :: others, category token.1 = category first.1 := by
  induction others generalizing first with
  | nil => exact fun token member => by rw [List.mem_singleton.mp member]
  | cons second later inductionHypothesis =>
    obtain ⟨same, alikeBehind⟩ := List.isChain_cons_cons.mp alike
    intro token member
    rcases List.mem_cons.mp member with rfl | behind
    · rfl
    · exact (inductionHypothesis alikeBehind token behind).trans (beq_iff_eq.mp same).symm

/-- Tokens of one category are a run if no token or one of another category follows. -/
theorem runs_append_of_alike {tokens rest : List Token} {name : Option Text} (some' : tokens ≠ [])
    (alike : ∀ token ∈ tokens, category token.1 = name)
    (ends : ∀ token ∈ rest.head?, category token.1 ≠ name) :
    runs (tokens ++ rest) = (name, spelling tokens) :: runs rest := by
  induction tokens with
  | nil => exact absurd rfl some'
  | cons token others inductionHypothesis =>
    obtain ⟨kind, text⟩ := token
    have named : category kind = name := alike (kind, text) List.mem_cons_self
    rw [List.cons_append, runs, named, spelling_cons]
    cases others with
    | nil =>
      rw [List.nil_append, spelling_nil, List.append_nil]
      cases rest with
      | nil => rfl
      | cons next later => exact addRun_addRun_of_ne (Ne.symm (ends next rfl)) (runs later)
    | cons second later =>
      rw [inductionHypothesis (List.cons_ne_nil _ _) fun other member =>
        alike other (List.mem_cons_of_mem _ member)]
      exact if_pos rfl

/-- Groups of tokens of one category each are the runs of all the tokens if the category changes
from every group to the next. -/
theorem runs_flatten {groups : List (List Token)} (noneEmpty : [] ∉ groups)
    (alike : ∀ group ∈ groups, group.IsChain fun left right => sameCategory left right)
    (change : groups.IsChain fun left right =>
      ∃ someLeft someRight, sameCategory (left.getLast someLeft) (right.head someRight) = false) :
    runs groups.flatten = groups.map runOf := by
  induction groups with
  | nil => rfl
  | cons group others inductionHypothesis =>
    have someHere : group ≠ [] := fun empty => noneEmpty (empty ▸ List.mem_cons_self)
    have later := inductionHypothesis (fun empty => noneEmpty (List.mem_cons_of_mem _ empty))
      (fun other member => alike other (List.mem_cons_of_mem _ member)) change.tail
    obtain ⟨first, behind, rfl⟩ := List.exists_cons_of_ne_nil someHere
    have named := category_eq_of_isChain (alike _ List.mem_cons_self)
    -- The group has one category throughout, so the one of its last token is that of its first.
    have ends : ∀ token ∈ others.flatten.head?, category token.1 ≠ category first.1 := by
      cases others with
      | nil => exact fun token member => nomatch member
      | cons next =>
        obtain ⟨⟨_, someNext, differ⟩, -⟩ := List.isChain_cons_cons.mp change
        intro token member equal
        rw [List.flatten_cons, List.head?_append_of_ne_nil _ someNext,
          List.head?_eq_some_head someNext] at member
        rw [sameCategory, beq_eq_false_iff_ne, named _ (List.getLast_mem _),
          Option.some.inj member] at differ
        exact differ equal.symm
    rw [List.flatten_cons, runs_append_of_alike someHere named ends, later]
    rfl

/-- The runs of tokens are the maximal runs of neighbours of the same category. -/
theorem runs_eq_map_splitBy (tokens : List Token) :
    runs tokens = (tokens.splitBy sameCategory).map runOf := by
  have cut := runs_flatten (List.nil_notMem_splitBy sameCategory tokens)
    (fun _ member => List.isChain_of_mem_splitBy member)
    (List.isChain_getLast_head_splitBy sameCategory tokens)
  rwa [List.flatten_splitBy] at cut

/-- Tokens behind others form the same runs with them if they form the same runs alone. -/
theorem runs_append_congr (front : List Token) {left right : List Token}
    (equal : runs left = runs right) : runs (front ++ left) = runs (front ++ right) := by
  induction front with
  | nil => exact equal
  | cons token others inductionHypothesis =>
    rw [List.cons_append, List.cons_append, runs, runs, inductionHypothesis]

/-- Two tokens of one category form the same runs as one of this category with both texts. -/
theorem runs_merge {first second kind : TokenKind} (same : category first = category second)
    (kept : category kind = category first) (front back : Text) (behind : List Token) :
    runs ((kind, front ++ back) :: behind) = runs ((first, front) :: (second, back) :: behind) := by
  simp only [runs]
  rw [← same, kept, addRun_addRun_self]

/-! ### Formatted runs -/

/-- How tokens of one category are to be written: their texts are joined and escaped, tabs are
replaced, and if there is a category, every line with something on it is a span of it. -/
def emission (style : Style) (group : List Token) : Text :=
  let text := Text.replaceChar '\t' style.tabReplacement
    (Html.escapeAll (group.map Prod.snd).flatten)
  match group.head?.bind fun token => category token.1 with
  | none => text
  | some name =>
    Text.join ['\n'] ((Text.lines text).map fun line =>
      if line = [] then []
      else "<span class=\"".toList ++ (style.classStart ++ name) ++ "\">".toList ++ line ++
        "</span>".toList)

theorem wrapLine_eq (className line : Text) :
    wrapLine className line =
      if line = [] then []
      else "<span class=\"".toList ++ className ++ "\">".toList ++ line ++ "</span>".toList := by
  unfold wrapLine spanStart spanEnd
  simp only [List.isEmpty_iff]

theorem renderRun_runOf (style : Style) (group : List Token) :
    renderRun style (runOf group) = emission style group := by
  have joined : spelling group = (group.map Prod.snd).flatten := List.flatMap_def
  unfold runOf emission
  rw [joined]
  cases group.head?.bind fun token => category token.1 with
  | none => rfl
  | some name =>
    simp only [renderRun, shown]
    rw [funext (wrapLine_eq (style.classStart ++ name))]

/-- Formatting depends on nothing but runs. The markup of tokens is that of the maximal runs of
neighbours of the same category, one after the other, each with the texts of its tokens joined,
escaped, with tabs replaced and wrapped line by line. So it stays the same if somewhere the text of
a token is split between two tokens of its kind, and if two neighbours of the same category are
merged into one token of this category. -/
theorem format_writes_maximal_runs (style : Style) (tokens : List Token) :
    format style tokens = (tokens.splitBy sameCategory).flatMap (emission style) ∧
      (∀ before kind front back behind, tokens = before ++ (kind, front ++ back) :: behind →
        format style (before ++ (kind, front) :: (kind, back) :: behind) = format style tokens) ∧
      ∀ before first second front back behind,
        tokens = before ++ (first, front) :: (second, back) :: behind →
        category first = category second → ∀ kind, category kind = category first →
          format style (before ++ (kind, front ++ back) :: behind) = format style tokens := by
  refine ⟨?_, ?_, ?_⟩
  · rw [format_eq_flatMap_runs, runs_eq_map_splitBy, List.flatMap_map]
    exact List.flatMap_congr fun group _ => renderRun_runOf style group
  · rintro before kind front back behind rfl
    rw [format_eq_flatMap_runs, format_eq_flatMap_runs,
      runs_append_congr before (runs_merge rfl rfl front back behind)]
  · rintro before first second front back behind rfl same kind kept
    rw [format_eq_flatMap_runs, format_eq_flatMap_runs,
      runs_append_congr before (runs_merge same kept front back behind)]

/-- The name of a function and that of a class are shown in one category. An empty token without a
category ends their run and leaves nothing else behind. -/
theorem format_joins_function_and_class :
    let function : TokenKind := ["Name".toList, "Function".toList]
    let structured : TokenKind := ["Name".toList, "Class".toList]
    let tokens : List Token :=
      [(function, "f<".toList), (structured, "\n\tg".toList), ([], []), (function, "hk".toList)]
    category function = category structured ∧
      format {} tokens = "<span class=\"hljs-title\">f&lt;</span>\n".toList ++
        "<span class=\"hljs-title\">\tg</span><span class=\"hljs-title\">hk</span>".toList ∧
      format {} ([(function, "f<".toList), (structured, "\n\tg".toList), ([], [])] ++
        [(function, ['h']), (function, ['k'])]) = format {} tokens ∧
      format {} [(structured, "f<\n\tg".toList), ([], []), (function, "hk".toList)] =
        format {} tokens := by
  intro function structured tokens
  have same : category function = category structured := by decide
  obtain ⟨written, split, merged⟩ := format_writes_maximal_runs {} tokens
  exact ⟨same, written.trans (by decide), split _ function ['h'] ['k'] [] rfl,
    merged [] function structured "f<".toList "\n\tg".toList _ rfl same structured same.symm⟩

end Listing

end BookMarkup
