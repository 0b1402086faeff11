/-
This file proves that no script URL gets through the check of a target. A browser that
reads an attribute value decodes it, passes over leading control characters and spaces,
drops tabs and line breaks and then looks at the scheme.

The characters that such a scheme is made of, with whatever a browser passes over, are
called legible. The argument follows the longest legible front of a value. Whatever
happens to a target on its way into the attribute, escaping in percent-escapes and
escaping for the attribute, the legible front of what the browser decodes was there when
the target was decoded for the check; and undoing percent-escapes leaves it where it was.
-/

import BookMarkup.Proofs.Html.Attribute
import BookMarkup.Proofs.Html.LongNumber
import BookMarkup.Proofs.Text.Letter
import BookMarkup.Proofs.Url.Percent
import BookMarkup.Url.Scheme

namespace BookMarkup

namespace Url

/-! ### What a browser sees -/

/-- A character that a browser passes over in front of a URL: a control character or a space. -/
def isLeading (c : Char) : Bool :=
  c.toNat ≤ 0x20

/-- A character that a browser drops from a URL. -/
def isDropped (c : Char) : Bool :=
  c == '\t' || c == '\n' || c == '\r'

/-- A decoded URL as a browser reads it. -/
def seenByBrowser (url : Text) : Text :=
  (url.dropWhile isLeading).filter fun c => !isDropped c

/-- Whether a browser runs a decoded URL as a script. -/
def runsScript (url : Text) : Bool :=
  scriptSchemes.any fun scheme => Text.startsCaseless scheme (seenByBrowser url)

/-! ### Legible characters -/

/-- A character that a browser may pass over on its way to the colon behind a scheme of letters,
or that stands in the scheme. -/
def isLegible (c : Char) : Bool :=
  isLeading c || c.isAlpha || c == ':'

theorem isLegible_of_isDropped {c : Char} (dropped : isDropped c = true) : isLegible c = true := by
  simp only [isDropped, Bool.or_eq_true, beq_iff_eq] at dropped
  rcases dropped with (rfl | rfl) | rfl <;> decide

/-- A legible character is a byte of its own and no percent sign. -/
theorem small_of_isLegible {c : Char} (legible : isLegible c = true) :
    c.toNat < 0x80 ∧ c ≠ '%' ∧ c ≠ '&' := by
  refine ⟨?_, ?_, ?_⟩
  · simp only [isLegible, isLeading, Bool.or_eq_true, decide_eq_true_eq, beq_iff_eq] at legible
    rcases legible with (leading | letter) | rfl
    · omega
    · have codes := (isAlpha_iff c).mp letter
      omega
    · decide
  · rintro rfl
    exact absurd legible (by decide)
  · rintro rfl
    exact absurd legible (by decide)

/-- The longest legible front of a text. -/
def legibleFront (text : Text) : Text :=
  text.takeWhile isLegible

/-- Whether the legible front of a text stands at the start of another text. -/
def FrontSurvives (seen checked : Text) : Prop :=
  legibleFront seen <+: checked

theorem frontSurvives_append (front : Text) {seen checked : Text}
    (survives : FrontSurvives seen checked) : FrontSurvives (front ++ seen) (front ++ checked) := by
  unfold FrontSurvives legibleFront at *
  induction front with
  | nil => exact survives
  | cons head front inductionHypothesis =>
    rw [List.cons_append, List.takeWhile_cons]
    split
    · exact List.cons_prefix_cons.mpr ⟨rfl, inductionHypothesis⟩
    · exact List.nil_prefix

theorem frontSurvives_of_not_legible {head : Char} (dark : isLegible head = false)
    (rest checked : Text) : FrontSurvives (head :: rest) checked := by
  unfold FrontSurvives legibleFront
  rw [List.takeWhile_cons_of_neg (by simp [dark])]
  exact List.nil_prefix

theorem prefix_of_frontSurvives {front seen checked : Text} (survives : FrontSurvives seen checked)
    (starts : front <+: seen) (legible : ∀ c ∈ front, isLegible c = true) : front <+: checked := by
  obtain ⟨rest, rfl⟩ := starts
  unfold FrontSurvives legibleFront at survives
  rw [List.takeWhile_append_of_pos legible] at survives
  exact (List.prefix_append front _).trans survives

/-! ### From the target to the attribute and back -/

/-- A text without an ampersand is not changed by decoding. -/
theorem decode_append_of_plain {front : Text} (plain : '&' ∉ front) (rest : Text) :
    CharRef.decode (front ++ rest) = front ++ CharRef.decode rest := by
  induction front with
  | nil => rfl
  | cons head front inductionHypothesis =>
    simp only [List.mem_cons, not_or] at plain
    rw [List.cons_append, CharRef.decode_cons_of_ne (Ne.symm plain.1),
      inductionHypothesis plain.2, List.cons_append]

/-- A reference that a semicolon ends is read the same in front of any two texts. -/
theorem frontSurvives_reference {front seen checked : Text} (body : CharRef.IsBody front)
    (survives : FrontSurvives (CharRef.decode seen) (CharRef.decode checked)) :
    FrontSurvives (CharRef.decode ('&' :: (front ++ ';' :: seen)))
      (CharRef.decode ('&' :: (front ++ ';' :: checked))) := by
  rw [CharRef.decode_ampersand, CharRef.decode_ampersand,
    CharRef.read?_append_semicolon false body seen,
    CharRef.read?_append_semicolon false body checked]
  cases reading : CharRef.read? false (front ++ [';']) with
  | none => exact frontSurvives_of_not_legible (by decide) _ _
  | some result =>
    obtain ⟨value, taken⟩ := result
    have within : taken ≤ (front ++ [';']).length := CharRef.read?_taken_le reading
    have plain : '&' ∉ (front ++ [';']).drop taken := by
      intro member
      rcases List.mem_append.mp (List.mem_of_mem_drop member) with member | member
      · exact (Html.plain_of_mem_body body member).1 rfl
      · exact absurd member (by decide)
    have behind (tail : Text) :
        (front ++ ';' :: tail).drop taken = (front ++ [';']).drop taken ++ tail := by
      rw [← List.drop_append_of_le_length within, List.append_assoc, List.singleton_append]
    show FrontSurvives (value ++ CharRef.decode ((front ++ ';' :: seen).drop taken))
      (value ++ CharRef.decode ((front ++ ';' :: checked).drop taken))
    rw [behind seen, behind checked, decode_append_of_plain plain,
      decode_append_of_plain plain]
    exact frontSurvives_append _ (frontSurvives_append _ survives)

section Written

variable {write : Char → Text} (keeps : ∀ c, write c = [c] ∨ (write c).head? = some '%')

include keeps in
/-- A front without percent signs of what was written was there before writing. -/
theorem exists_of_flatMap_eq_append {target front rest : Text} (free : '%' ∉ front)
    (written : target.flatMap write = front ++ rest) :
    ∃ behind, target = front ++ behind ∧ behind.flatMap write = rest := by
  induction front generalizing target with
  | nil => exact ⟨target, rfl, written⟩
  | cons head front inductionHypothesis =>
    simp only [List.mem_cons, not_or] at free
    cases target with
    | nil => cases written
    | cons first others =>
      rw [List.flatMap_cons] at written
      rcases keeps first with same | escape
      · rw [same] at written
        obtain ⟨rfl, remaining⟩ := List.cons.inj written
        obtain ⟨behind, rfl, equal⟩ := inductionHypothesis free.2 remaining
        exact ⟨behind, rfl, equal⟩
      · obtain ⟨tail, starts⟩ := List.head?_eq_some_iff.mp escape
        rw [starts] at written
        exact absurd (List.cons.inj written).1 free.1

include keeps in
/-- The legible front of what a browser decodes was there when the target was decoded. The
induction is on the length of the target, because a kept reference is passed in one step. -/
theorem frontSurvives_decode_escapeAttribute (target : Text) :
    FrontSurvives (CharRef.decode (Html.escapeAttribute (target.flatMap write)))
      (CharRef.decode target) := by
  induction size : target.length using Nat.strongRecOn generalizing target with
  | ind count inductionHypothesis =>
    cases target with
    | nil => exact List.nil_prefix
    | cons head rest =>
      rw [List.length_cons] at size
      rw [List.flatMap_cons]
      rcases keeps head with same | escape
      · rw [same, List.singleton_append]
        by_cases kept : head = '&' ∧ Html.completesReference (rest.flatMap write) = true
        · obtain ⟨rfl, completes⟩ := kept
          obtain ⟨front, behind, body, written⟩ := (Html.completesReference_iff _).mp completes
          have free : '%' ∉ front ++ [';'] := by
            intro member
            rcases List.mem_append.mp member with member | member
            · exact (Html.plain_of_mem_body body member).2.1 rfl
            · exact absurd member (by decide)
          have whole : rest.flatMap write = (front ++ [';']) ++ behind := by
            rw [written, List.append_assoc, List.singleton_append]
          obtain ⟨untouched, rfl, rfl⟩ := exists_of_flatMap_eq_append keeps free whole
          rw [written, Html.escapeAttribute_reference body, List.append_assoc,
            List.singleton_append]
          refine frontSurvives_reference body (inductionHypothesis _ ?_ untouched rfl)
          simp only [List.length_append] at size
          omega
        · have bare : head = '&' → Html.completesReference (rest.flatMap write) = false :=
            fun ampersand => Bool.eq_false_iff.mpr fun completes => kept ⟨ampersand, completes⟩
          rw [Html.decode_escapeAttribute_cons bare]
          by_cases ampersand : head = '&'
          · subst ampersand
            exact frontSurvives_of_not_legible (by decide) _ _
          · rw [CharRef.decode_cons_of_ne ampersand]
            exact frontSurvives_append [head]
              (inductionHypothesis rest.length (by omega) rest rfl)
      · obtain ⟨tail, starts⟩ := List.head?_eq_some_iff.mp escape
        rw [starts, List.cons_append, Html.decode_escapeAttribute_cons (by simp)]
        exact frontSurvives_of_not_legible (by decide) _ _

end Written

/-! ### From the decoded target to the check -/

/-- Undoing percent-escapes leaves the legible front of a text where it is. -/
theorem frontSurvives_percentDecode {target decoded : Text}
    (decodes : Percent.decode? target = some decoded) : FrontSurvives target decoded := by
  induction target generalizing decoded with
  | nil => exact List.nil_prefix
  | cons head rest inductionHypothesis =>
    cases legible : isLegible head with
    | false => exact frontSurvives_of_not_legible legible rest decoded
    | true =>
      obtain ⟨-, noEscape, -⟩ := small_of_isLegible legible
      rw [Percent.decode?_cons_of_ne noEscape] at decodes
      obtain ⟨tail, behind, rfl⟩ := Option.map_eq_some_iff.mp decodes
      exact frontSurvives_append [head] (inductionHypothesis behind)

/-! ### The scheme -/

/-- A character of a scheme or the colon behind it, in either case. -/
theorem isAlpha_or_colon_of_toLower {c : Char}
    (spelt : c.toLower.isAlpha = true ∨ c.toLower = ':') : c.isAlpha = true ∨ c = ':' := by
  cases upper : c.isUpper with
  | true =>
    left
    show (c.isUpper || c.isLower) = true
    rw [upper, Bool.true_or]
  | false => rwa [toLower_of_not_isUpper upper] at spelt

theorem isLeading_of_isDropped {c : Char} (dropped : isDropped c = true) : isLeading c = true := by
  simp only [isDropped, Bool.or_eq_true, beq_iff_eq] at dropped
  rcases dropped with (rfl | rfl) | rfl <;> decide

/-- The check looks at no character that a browser passes over. -/
theorem not_isLeading_of_word {c : Char} (word : (isWord c || c == ':') = true) :
    isLeading c = false := by
  rw [isLeading, decide_eq_false_iff_not]
  intro leading
  have code : ∀ code ≤ 0x20, (isWord (Char.ofNat code) || Char.ofNat code == ':') = false := by
    decide
  have dark := code c.toNat leading
  rw [Char.ofNat_toNat, word] at dark
  cases dark

theorem wordsAndColons_append (left right : Text) :
    wordsAndColons (left ++ right) = wordsAndColons left ++ wordsAndColons right :=
  List.filter_append left right

/-- What a browser drops plays no part in the check. -/
theorem wordsAndColons_filter_dropped (text : Text) :
    wordsAndColons (text.filter fun c => !isDropped c) = wordsAndColons text := by
  unfold wordsAndColons
  rw [List.filter_filter]
  refine List.filter_congr fun c _ => ?_
  cases word : isWord c || c == ':' with
  | false => rfl
  | true =>
    cases dropped : isDropped c with
    | false => rfl
    | true =>
      have dark := not_isLeading_of_word word
      rw [isLeading_of_isDropped dropped] at dark
      cases dark

theorem isAlpha_or_colon_of_mem_scriptSchemes {scheme : Text} (known : scheme ∈ scriptSchemes) :
    ∀ c ∈ scheme, c.isAlpha = true ∨ c = ':' := by
  have all : ∀ scheme ∈ scriptSchemes, ∀ c ∈ scheme, c.isAlpha = true ∨ c = ':' := by decide
  exact all scheme known

/-- The scheme that a browser finds is spelt by legible characters at the front of the URL, and
they are what the check looks for. -/
theorem exists_legible_of_runsScript {url : Text} (runs : runsScript url = true) :
    ∃ front, front <+: url ∧ (∀ c ∈ front, isLegible c = true) ∧
      Text.lower (wordsAndColons front) ∈ scriptSchemes := by
  obtain ⟨scheme, known, starts⟩ := List.any_eq_true.mp runs
  -- The characters that spell the scheme once what a browser drops is gone.
  obtain ⟨spelling, equal⟩ : ∃ spelling, spelling = (seenByBrowser url).take scheme.length :=
    ⟨_, rfl⟩
  have spells : Text.lower spelling = scheme := by
    rw [Text.startsCaseless, List.isPrefixOf_iff_prefix, ← equal] at starts
    refine (starts.eq_of_length_le ?_).symm
    rw [Text.lower, List.length_map, equal, List.length_take]
    exact Nat.min_le_left _ _
  have letters : ∀ c ∈ spelling, c.isAlpha = true ∨ c = ':' := by
    intro c member
    refine isAlpha_or_colon_of_toLower (isAlpha_or_colon_of_mem_scriptSchemes known _ ?_)
    rw [← spells]
    exact List.mem_map_of_mem member
  have cut : (url.dropWhile isLeading).filter (fun c => !isDropped c) =
      spelling ++ (seenByBrowser url).drop scheme.length := by
    rw [equal, List.take_append_drop]
    rfl
  obtain ⟨written, others, whole, kept, -⟩ := List.filter_eq_append_iff.mp cut
  refine ⟨url.takeWhile isLeading ++ written, ⟨others, ?_⟩, ?_, ?_⟩
  · rw [List.append_assoc, ← whole, List.takeWhile_append_dropWhile]
  · intro c member
    rcases List.mem_append.mp member with leading | member
    · have passed := List.all_eq_true.mp List.all_takeWhile c leading
      simp [isLegible, passed]
    · cases dropped : isDropped c with
      | true => exact isLegible_of_isDropped dropped
      | false =>
        have spelt : c ∈ spelling := by
          rw [← kept]
          exact List.mem_filter.mpr ⟨member, by simp [dropped]⟩
        rcases letters c spelt with letter | rfl
        · simp [isLegible, letter]
        · decide
  · have passed : wordsAndColons (url.takeWhile isLeading) = [] := by
      refine List.filter_eq_nil_iff.mpr fun c member word => ?_
      have dark := not_isLeading_of_word word
      rw [List.all_eq_true.mp List.all_takeWhile c member] at dark
      cases dark
    have looked : wordsAndColons spelling = spelling := by
      refine List.filter_eq_self.mpr fun c member => ?_
      rcases letters c member with letter | rfl
      · rw [isWord_of_isAlphanum c (by simp [Char.isAlphanum, letter]), Bool.true_or]
      · decide
    rw [wordsAndColons_append, passed, List.nil_append, ← wordsAndColons_filter_dropped, kept,
      looked, spells]
    exact known

example : runsScript " \n ja\tvaScript\r:0".toList = true := by decide

/-- A text that starts with the spelling of a script scheme does not pass the check. -/
theorem startsWithScriptScheme_of_starts {front decoded : Text} (starts : front <+: decoded)
    (spells : Text.lower (wordsAndColons front) ∈ scriptSchemes) :
    startsWithScriptScheme decoded = true := by
  obtain ⟨rest, rfl⟩ := starts
  refine List.any_eq_true.mpr ⟨_, spells, ?_⟩
  unfold Text.lower
  rw [List.isPrefixOf_iff_prefix, wordsAndColons_append, List.map_append]
  exact List.prefix_append _ _

/-- A target that passes the check gives an attribute that runs no script, in whatever way its
characters are percent-escaped. -/
theorem runsScript_eq_false_of_not_isSuspect {write : Char → Text}
    (keeps : ∀ c, write c = [c] ∨ (write c).head? = some '%') {target : Text}
    (harmless : isSuspect (CharRef.decode target) = false) :
    runsScript (CharRef.decode (Html.escapeAttribute (target.flatMap write))) = false := by
  refine Bool.eq_false_iff.mpr fun runs => ?_
  obtain ⟨front, starts, legible, spells⟩ := exists_legible_of_runsScript runs
  unfold isSuspect at harmless
  split at harmless
  · cases harmless
  · next decoded decodes =>
    have inTarget : front <+: CharRef.decode target :=
      prefix_of_frontSurvives (frontSurvives_decode_escapeAttribute keeps target) starts legible
    have inDecoded : front <+: decoded :=
      prefix_of_frontSurvives (frontSurvives_percentDecode decodes) inTarget legible
    rw [startsWithScriptScheme_of_starts inDecoded spells] at harmless
    cases harmless

/-! ### The check -/

/-- What the check answers for a target without too long a number. -/
theorem check_eq_ok_iff {target : Text} {suspect : Bool} :
    check target = .ok suspect ↔
      ¬ CharRef.HoldsLongNumber target ∧ isSuspect (CharRef.decode target) = suspect := by
  rw [← CharRef.longNumber?_eq_none_iff]
  unfold check CharRef.unescape
  cases CharRef.longNumber? target <;> simp [Except.map]

/-- The check fails with the first number of a target that is too long. -/
theorem check_eq_error_iff {target : Text} {number : CharRef.LongNumber} :
    check target = .error number ↔ CharRef.longNumber? target = some number := by
  unfold check CharRef.unescape
  cases CharRef.longNumber? target <;> simp [Except.map]

end Url

end BookMarkup
