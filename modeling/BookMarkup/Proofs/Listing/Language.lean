/-
This file proves that the tokens of the three languages spell the code that is lexed.
Every step of a lexer takes its tokens off the front of what is left and takes at least
one character, so the run of the steps leaves nothing out and repeats nothing.
-/

import BookMarkup.Listing.Language
import BookMarkup.Proofs.Text.Occurrence
import Mathlib.Tactic.SplitIfs

namespace BookMarkup

namespace Listing

/-- Whether tokens can be taken off the front of a text: they spell a start of it, which is not
empty. -/
def TakesFrom (tokens : List Token) (code : Text) : Prop :=
  spelling tokens <+: code ∧ spelling tokens ≠ []

/-! ### What tokens spell -/

/-- Empty tokens spell nothing. -/
theorem spelling_nonEmpty (tokens : List Token) : spelling (nonEmpty tokens) = spelling tokens := by
  induction tokens with
  | nil => rfl
  | cons token others inductionHypothesis =>
    obtain ⟨kind, text⟩ := token
    cases text with
    | nil => exact inductionHypothesis
    | cons head rest =>
      show (head :: rest) ++ spelling (nonEmpty others) = (head :: rest) ++ spelling others
      rw [inductionHypothesis]

theorem takesFrom_single {kind : TokenKind} {text code : Text} (starts : text <+: code)
    (nonempty : text ≠ []) : TakesFrom [(kind, text)] code := by
  unfold TakesFrom
  rw [spelling_cons, spelling_nil, List.append_nil]
  exact ⟨starts, nonempty⟩

/-- A run of characters at the start of a text is not empty if the first one belongs to it. -/
theorem takesFrom_takeWhile {kind : TokenKind} {holds : Char → Bool} {head : Char}
    (first : holds head = true) (rest : Text) :
    TakesFrom [(kind, (head :: rest).takeWhile holds)] (head :: rest) := by
  refine takesFrom_single (List.takeWhile_prefix holds) ?_
  rw [List.takeWhile_cons_of_pos first]
  exact List.cons_ne_nil _ _

theorem takesFrom_of_eq_append {tokens : List Token} {code front : Text} (rest : Text)
    (spells : spelling tokens = front) (nonempty : front ≠ []) (whole : code = front ++ rest) :
    TakesFrom tokens code := by
  subst spells whole
  exact ⟨List.prefix_append _ _, nonempty⟩

/-! ### Running a lexer -/

/-- Characters that are passed over do not matter. -/
theorem lexFrom_eq_drop {State : Type} (step : State → Text → List Token × State) (skip : Nat)
    (state : State) (code : Text) :
    lexFrom step skip state code = lexFrom step 0 state (code.drop skip) := by
  induction code generalizing skip with
  | nil => cases skip <;> rfl
  | cons head rest inductionHypothesis =>
    cases skip with
    | zero => rfl
    | succ skip => exact inductionHypothesis skip

/-- A step whose tokens spell a front of the code is followed by the steps behind that front. -/
theorem lexFrom_append {State : Type} {step : State → Text → List Token × State}
    {state next : State} {tokens : List Token} {front rest : Text}
    (stepped : step state (front ++ rest) = (tokens, next)) (spells : spelling tokens = front)
    (nonempty : front ≠ []) :
    lexFrom step 0 state (front ++ rest) = tokens ++ lexFrom step 0 next rest := by
  obtain ⟨head, tail, rfl⟩ := List.exists_cons_of_ne_nil nonempty
  rw [List.cons_append] at stepped ⊢
  rw [lexFrom, stepped]
  simp only [spells, List.length_cons, Nat.add_sub_cancel]
  rw [lexFrom_eq_drop, List.drop_left]

/-- A lexer whose every step takes its tokens off the front spells the code. -/
theorem spelling_lexFrom {State : Type} {step : State → Text → List Token × State}
    (takes : ∀ state head rest, TakesFrom (step state (head :: rest)).1 (head :: rest))
    (state : State) (code : Text) : spelling (lexFrom step 0 state code) = code := by
  induction size : code.length using Nat.strongRecOn generalizing state code with
  | ind count inductionHypothesis =>
    cases code with
    | nil => rfl
    | cons head rest =>
      obtain ⟨⟨behind, whole⟩, nonempty⟩ := takes state head rest
      cases stepped : step state (head :: rest) with
      | mk tokens next =>
        rw [stepped] at whole nonempty
        rw [← whole] at stepped size ⊢
        have shorter : behind.length < count := by
          have positive := List.length_pos_iff.mpr nonempty
          rw [List.length_append] at size
          omega
        rw [lexFrom_append stepped rfl nonempty, spelling_append,
          inductionHypothesis behind.length shorter next behind rfl]

/-! ### Differences -/

theorem spelling_differenceLine (line : Text) : spelling (differenceLine line) = line := by
  simp only [differenceLine]
  split
  · simp [spelling]
  · split_ifs <;> simp [spelling]

theorem takesFrom_differenceStep (head : Char) (rest : Text) :
    TakesFrom (differenceStep () (head :: rest)).1 (head :: rest) := by
  simp only [differenceStep, Text.drop_length_takeWhile]
  cases behind : (head :: rest).dropWhile (· != '\n') with
  | nil => exact takesFrom_single (List.take_prefix 1 _) (by simp)
  | cons stop others =>
    have newline : stop = '\n' := by simpa using Text.eq_false_of_dropWhile_eq_cons behind
    subst newline
    refine takesFrom_of_eq_append others rfl ?_ ?_
    · simp [spelling_nonEmpty, spelling_append, spelling_cons]
    · simp only [List.isEmpty_cons, Bool.false_eq_true, if_false, spelling_nonEmpty,
        spelling_append, spelling_differenceLine, spelling_cons, spelling_nil, List.append_nil]
      rw [List.append_assoc, List.singleton_append, ← behind, List.takeWhile_append_dropWhile]

/-! ### Properties -/

theorem takesFrom_escapeTokens (rest : Text) : TakesFrom (escapeTokens rest) ('\\' :: rest) := by
  unfold escapeTokens
  split
  · next behind =>
    refine takesFrom_of_eq_append (behind.dropWhile isInnerBlank) rfl ?_ ?_
    · simp [spelling_nonEmpty, spelling_cons]
    · simp [spelling_nonEmpty, spelling_cons, spelling_nil]
  · next c behind _ =>
    exact takesFrom_of_eq_append behind rfl (by simp [spelling]) (by simp [spelling])
  · exact takesFrom_single (List.prefix_refl _) (by simp)

theorem takesFrom_keyStep (head : Char) (rest : Text) :
    TakesFrom (keyStep (head :: rest)).1 (head :: rest) := by
  simp only [keyStep, Text.drop_length_takeWhile]
  split
  · next equal =>
    cases equal
    exact takesFrom_single (List.prefix_append ['\n'] rest) (by simp)
  · next equal =>
    cases equal
    exact takesFrom_escapeTokens rest
  · next noLineEnd noEscape =>
    have whole := List.takeWhile_append_dropWhile (p := isInnerBlank) (l := head :: rest)
    split
    · next sign others behind =>
      split_ifs with operator unindented
      · refine takesFrom_of_eq_append (others.dropWhile isInnerBlank) rfl ?_ ?_
        · simp [spelling_nonEmpty, spelling_cons]
        · simp only [spelling_nonEmpty, spelling_cons, spelling_nil, List.append_nil]
          rw [List.append_assoc, List.append_assoc, List.takeWhile_append_dropWhile,
            List.singleton_append, ← behind, whole]
      · -- Without blanks in front the sign is the first character, and it belongs to a key.
        have noBlanks := List.isEmpty_iff.mp unindented
        rw [noBlanks, behind, List.nil_append] at whole
        obtain ⟨rfl, rfl⟩ := List.cons.inj whole
        have outside : isInnerBlank sign = false := Text.eq_false_of_dropWhile_eq_cons behind
        have other : sign ≠ '\n' := fun equal => noLineEnd others (by rw [equal])
        have plain : sign ≠ '\\' := fun equal => noEscape others (by rw [equal])
        refine takesFrom_takeWhile ?_ others
        simp only [isInnerBlank, Bool.and_eq_false_iff, bne_eq_false_iff_eq, other, or_false]
          at outside
        have sides : sign ≠ ':' ∧ sign ≠ '=' := by simpa using operator
        simp [isKeyChar, outside, plain, sides.1, sides.2]
      · refine takesFrom_single (List.takeWhile_prefix _) ?_
        simpa using unindented
    · next behind =>
      rw [behind, List.append_nil] at whole
      rw [whole]
      exact takesFrom_single (List.prefix_refl _) (by simp)

theorem takesFrom_valueStep (head : Char) (rest : Text) :
    TakesFrom (valueStep (head :: rest)).1 (head :: rest) := by
  unfold valueStep
  split
  · next equal =>
    cases equal
    exact takesFrom_single (List.prefix_append ['\n'] rest) (by simp)
  · next equal =>
    cases equal
    exact takesFrom_escapeTokens rest
  · next noLineEnd noEscape =>
    have other : head ≠ '\n' := fun equal => noLineEnd rest (by rw [equal])
    have plain : head ≠ '\\' := fun equal => noEscape rest (by rw [equal])
    exact takesFrom_takeWhile (by simp [isValueChar, other, plain]) rest

theorem takesFrom_propertyStep (place : PropertyPlace) (head : Char) (rest : Text) :
    TakesFrom (propertyStep place (head :: rest)).1 (head :: rest) := by
  cases place with
  | key => exact takesFrom_keyStep head rest
  | value => exact takesFrom_valueStep head rest
  | _ =>
    simp only [propertyStep]
    split
    · next equal =>
      cases equal
      exact takesFrom_single (List.prefix_append ['\n'] rest) (by simp)
    · next noLineEnd =>
      split_ifs with comment indented
      · let inLine : Char → Bool := (· != '\n')
        have other : inLine head = true :=
          bne_iff_ne.mpr fun equal => noLineEnd rest (by rw [equal])
        exact takesFrom_takeWhile other rest
      · refine takesFrom_single (List.takeWhile_prefix _) fun empty => ?_
        simp [empty] at indented
      · exact takesFrom_keyStep head rest

/-! ### Prepared code -/

theorem unifyLineEnds_eq_self {text : Text} (noReturn : '\r' ∉ text) :
    Text.unifyLineEnds text = text := by
  fun_induction Text.unifyLineEnds text with
  | case1 rest _ => simp at noReturn
  | case2 rest _ _ => simp at noReturn
  | case3 head rest _ _ inductionHypothesis =>
    simp only [List.mem_cons, not_or] at noReturn
    rw [inductionHypothesis noReturn.2]
  | case4 => rfl

/-- Code with plain line ends and without a byte order mark is read as it is. -/
theorem prepared_eq_self {code : Text} (noReturn : '\r' ∉ code)
    (noMark : code.head? ≠ some '\uFEFF') : prepared code = code := by
  have absent : Text.after? ['\uFEFF'] code = none := by
    cases code with
    | nil => rfl
    | cons head rest =>
      have other : '\uFEFF' ≠ head := fun equal => noMark (congrArg some equal.symm)
      rw [Text.after?, Text.isPrefixOf_of_ne rfl other]
      rfl
  rw [prepared, absent]
  exact unifyLineEnds_eq_self noReturn

/-! ### The three lexers -/

/-- The tokens of source code in any language spell the prepared code. -/
theorem spelling_three (languages : List Text) (code : Text) :
    spelling ((Lexers.three.choose languages).tokens code) = prepared code := by
  have plain : spelling (Lexer.plainText.tokens code) = prepared code := List.append_nil _
  have known {language : Text} {lexer : Lexer} (found : lexerOf? language = some lexer) :
      spelling (lexer.tokens code) = prepared code := by
    simp only [lexerOf?] at found
    split_ifs at found <;> cases found
    · exact plain
    · exact spelling_lexFrom (fun _ => takesFrom_differenceStep) () _
    · exact spelling_lexFrom takesFrom_propertyStep .lineStart _
  show spelling (((languages.findSome? lexerOf?).getD .plainText).tokens code) = prepared code
  cases found : languages.findSome? lexerOf? with
  | none => exact plain
  | some lexer =>
    obtain ⟨language, -, ofLanguage⟩ := List.exists_of_findSome?_eq_some found
    exact known ofLanguage

end Listing

end BookMarkup
