/-
This file proves which texts escaping leaves as they are: those in escaped form, in which
no reserved character stands and every ampersand starts a character reference. Whether one
does depends on the text behind it, but what escaping writes there keeps a reference that
is complete and completes none that is not. So escaping writes texts in escaped form, and
doing it once more, to the same degree or to a higher one, is the same as doing it once.
-/

import BookMarkup.Proofs.Html.Escaped

namespace BookMarkup

namespace Html

/-- Whether a text is in escaped form: it holds none of the reserved characters, and each of its
ampersands starts a character reference, which is an optional number sign, word characters and a
semicolon. -/
structure IsEscaped (reserved : List Char) (text : Text) : Prop where
  free : ∀ c ∈ reserved, c ∉ text
  references : ∀ front behind, text = front ++ '&' :: behind →
    ∃ sign word rest, (sign = [] ∨ sign = ['#']) ∧ word ≠ [] ∧ (∀ c ∈ word, isWord c = true) ∧
      behind = sign ++ (word ++ ';' :: rest)

/-! ### Ampersands -/

theorem completesReference_iff_parts (text : Text) :
    completesReference text = true ↔
      ∃ sign word rest, (sign = [] ∨ sign = ['#']) ∧ word ≠ [] ∧ (∀ c ∈ word, isWord c = true) ∧
        text = sign ++ (word ++ ';' :: rest) := by
  rw [completesReference_iff]
  constructor
  · rintro ⟨body, rest, ⟨word, rfl | rfl, nonempty, words⟩, rfl⟩
    · exact ⟨[], body, rest, Or.inl rfl, nonempty, words, rfl⟩
    · exact ⟨['#'], word, rest, Or.inr rfl, nonempty, words, rfl⟩
  · rintro ⟨sign, word, rest, rfl | rfl, nonempty, words, rfl⟩
    · exact ⟨word, rest, ⟨word, Or.inl rfl, nonempty, words⟩, rfl⟩
    · exact ⟨'#' :: word, rest, ⟨word, Or.inr rfl, nonempty, words⟩, rfl⟩

theorem isWhole_iff {text : Text} :
    IsWhole text ↔ ∀ front behind, text = front ++ '&' :: behind →
      ∃ sign word rest, (sign = [] ∨ sign = ['#']) ∧ word ≠ [] ∧ (∀ c ∈ word, isWord c = true) ∧
        behind = sign ++ (word ++ ';' :: rest) := by
  constructor
  · intro whole front behind spelled
    exact (completesReference_iff_parts behind).mp (whole behind ⟨front, spelled.symm⟩)
  · rintro references behind ⟨front, spelled⟩
    exact (completesReference_iff_parts behind).mpr (references front behind spelled.symm)

/-! ### What is kept -/

/-- In a text of which nothing is reserved and every ampersand starts a reference there is nothing
to escape. -/
theorem escapeKeeping_eq_self {reserved : Char → Bool} {text : Text}
    (free : ∀ c ∈ text, reserved c = false) (whole : IsWhole text) :
    escapeKeeping reserved text = text := by
  induction text with
  | nil => rfl
  | cons head rest inductionHypothesis =>
    obtain ⟨here, later⟩ := List.forall_mem_cons.mp free
    have kept := inductionHypothesis later (whole.of_suffix (List.suffix_cons head rest))
    rw [escapeKeeping, kept]
    by_cases ampersand : head = '&'
    · subst ampersand
      rw [if_pos rfl, if_pos (whole rest List.suffix_rfl)]
      rfl
    · rw [if_neg ampersand, here]
      rfl

variable {reserved : Char → Bool} {characters : List Char}

/-- What escaping writes is in escaped form. -/
theorem isEscaped_escapeKeeping (within : ∀ c, reserved c = true → isReservedInAttribute c = true)
    (named : ∀ c ∈ characters, reserved c = true) (text : Text) :
    IsEscaped characters (escapeKeeping reserved text) where
  free c isNamed member := by
    have free := not_reserved_of_mem_escapeKeeping within member
    rw [named c isNamed] at free
    cases free
  references := isWhole_iff.mp (isWhole_escapeKeeping reserved text)

/-- Escaping keeps exactly the texts in escaped form. -/
theorem escapeKeeping_eq_self_iff
    (within : ∀ c, reserved c = true → isReservedInAttribute c = true)
    (named : ∀ c, c ∈ characters ↔ reserved c = true) {text : Text} :
    escapeKeeping reserved text = text ↔ IsEscaped characters text := by
  constructor
  · intro kept
    rw [← kept]
    exact isEscaped_escapeKeeping within (fun c => (named c).mp) text
  · intro escaped
    refine escapeKeeping_eq_self (fun c member => ?_) (isWhole_iff.mpr escaped.references)
    exact Bool.eq_false_iff.mpr fun isReserved =>
      escaped.free c ((named c).mpr isReserved) member

/-- The texts that are kept as attribute values. -/
theorem escapeAttribute_eq_self_iff {text : Text} :
    escapeAttribute text = text ↔ IsEscaped "<>\"'".toList text :=
  escapeKeeping_eq_self_iff (fun _ => id) fun c => by
    show c ∈ ['<', '>', '"', '\''] ↔ _
    simp [isReservedInAttribute, or_assoc]

/-- The texts that are kept as element content. -/
theorem escapeContent_eq_self_iff {text : Text} :
    escapeContent text = text ↔ IsEscaped "<>".toList text :=
  escapeKeeping_eq_self_iff (fun _ => isReservedInAttribute_of_isReservedInContent) fun c => by
    show c ∈ ['<', '>'] ↔ _
    simp [isReservedInContent]

/-! ### Escaping again -/

/-- Escaping is safe to apply to escaped text. What is written for an attribute holds no angle
bracket and no quote, and every ampersand in it starts a character reference; these are the texts
that escaping keeps, so that escaping again changes nothing. The same holds of element content,
where quotes are left alone, and content that was escaped already is written into an attribute like
content that was not. -/
theorem escaping_again_changes_nothing (text : Text) :
    IsEscaped "<>\"'".toList (escapeAttribute text) ∧
      (escapeAttribute text = text ↔ IsEscaped "<>\"'".toList text) ∧
      escapeAttribute (escapeAttribute text) = escapeAttribute text ∧
      IsEscaped "<>".toList (escapeContent text) ∧
      (escapeContent text = text ↔ IsEscaped "<>".toList text) ∧
      escapeContent (escapeContent text) = escapeContent text ∧
      escapeAttribute (escapeContent text) = escapeAttribute text := by
  have value : IsEscaped "<>\"'".toList (escapeAttribute text) :=
    isEscaped_escapeKeeping (fun _ => id) (by decide) text
  have content : IsEscaped "<>".toList (escapeContent text) :=
    isEscaped_escapeKeeping (fun _ => isReservedInAttribute_of_isReservedInContent) (by decide) text
  have both := escapeAttribute_escapeContent text []
  rw [List.append_nil] at both
  exact ⟨value, escapeAttribute_eq_self_iff, escapeAttribute_eq_self_iff.mpr value,
    content, escapeContent_eq_self_iff, escapeContent_eq_self_iff.mpr content,
    both.trans (List.append_nil _)⟩

/-- The first ampersand starts a reference and the second one does not. -/
example : escapeAttribute "&lt; & 'a'".toList = "&lt; &amp; &#39;a&#39;".toList ∧
    escapeContent "&lt; & 'a'".toList = "&lt; &amp; 'a'".toList := by decide

end Html

end BookMarkup
