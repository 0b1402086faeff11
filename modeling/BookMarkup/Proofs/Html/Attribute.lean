/-
This file proves what an escaped attribute value holds. It holds no quote, so it ends
where its attribute ends. A character reference that the author typed stands in it as
it was typed, and every other character is written so that decoding gives it back.
-/

import BookMarkup.Proofs.Html.CharRef

namespace BookMarkup

namespace Html

/-! ### No quote and no bracket gets out -/

theorem not_reserved_of_mem_escapeChar {c written : Char} (member : written ∈ escapeChar c) :
    isReservedInAttribute written = false := by
  have reference {entity : Text} (plain : ∀ c ∈ entity, isReservedInAttribute c = false)
      (inside : written ∈ entity) : isReservedInAttribute written = false := plain written inside
  unfold escapeChar at member
  split_ifs at member with ampersand less greater quote apostrophe
  · exact reference (by decide) member
  · exact reference (by decide) member
  · exact reference (by decide) member
  · exact reference (by decide) member
  · exact reference (by decide) member
  · simp [List.mem_singleton.mp member, isReservedInAttribute, less, greater, quote, apostrophe]

/-- Text in which all is escaped holds no quote of either kind and no angle bracket. -/
theorem not_reserved_of_mem_escapeAll {text : Text} {written : Char}
    (member : written ∈ escapeAll text) : isReservedInAttribute written = false := by
  obtain ⟨source, -, inChar⟩ := List.mem_flatMap.mp member
  exact not_reserved_of_mem_escapeChar inChar

/-- Text in which some of the reserved characters are escaped holds none of these. -/
theorem not_reserved_of_mem_escapeKeeping {reserved : Char → Bool}
    (within : ∀ c, reserved c = true → isReservedInAttribute c = true) {text : Text}
    {written : Char} (member : written ∈ escapeKeeping reserved text) :
    reserved written = false := by
  have other {c : Char} (plain : isReservedInAttribute c = false) : reserved c = false := by
    refine Bool.eq_false_iff.mpr fun isReserved => ?_
    rw [within c isReserved] at plain
    cases plain
  induction text with
  | nil => cases member
  | cons head rest inductionHypothesis =>
    simp only [escapeKeeping] at member
    rcases List.mem_append.mp member with here | later
    · split_ifs at here with ampersand completes isReserved
      · rw [List.mem_singleton.mp here]
        exact other (by decide)
      · exact other (not_reserved_of_mem_escapeChar here)
      · exact other (not_reserved_of_mem_escapeChar here)
      · rw [List.mem_singleton.mp here]
        exact Bool.of_not_eq_true isReserved
    · exact inductionHypothesis later

theorem not_reserved_of_mem_escapeAttribute {text : Text} {written : Char}
    (member : written ∈ escapeAttribute text) : isReservedInAttribute written = false :=
  not_reserved_of_mem_escapeKeeping (fun _ => id) member

theorem isReservedInAttribute_of_isReservedInContent {c : Char}
    (reserved : isReservedInContent c = true) : isReservedInAttribute c = true := by
  rw [isReservedInAttribute]
  rw [isReservedInContent] at reserved
  rw [reserved]
  rfl

/-- Escaped content holds no angle bracket. -/
theorem not_reserved_of_mem_escapeContent {text : Text} {written : Char}
    (member : written ∈ escapeContent text) : isReservedInContent written = false :=
  not_reserved_of_mem_escapeKeeping (fun _ => isReservedInAttribute_of_isReservedInContent) member

/-- An escaped attribute value ends in front of the quote behind it. -/
theorem quote_not_mem_escapeAttribute (text : Text) : '"' ∉ escapeAttribute text := fun member =>
  absurd (not_reserved_of_mem_escapeAttribute member) (by decide)

/-! ### Nothing but references is added -/

theorem mem_escapeChar {c written : Char} (member : written ∈ escapeChar c) :
    written = c ∨ written ∈ "&;#39amplgtquo".toList := by
  have reference {entity : Text} (among : entity ⊆ "&;#39amplgtquo".toList)
      (inside : written ∈ entity) : written = c ∨ written ∈ "&;#39amplgtquo".toList :=
    Or.inr (among inside)
  unfold escapeChar at member
  split_ifs at member
  · exact reference (by decide) member
  · exact reference (by decide) member
  · exact reference (by decide) member
  · exact reference (by decide) member
  · exact reference (by decide) member
  · exact Or.inl (List.mem_singleton.mp member)

/-- An escaped attribute value holds its own characters and those of references. -/
theorem mem_escapeAttribute {text : Text} {written : Char}
    (member : written ∈ escapeAttribute text) :
    written ∈ text ∨ written ∈ "&;#39amplgtquo".toList := by
  unfold escapeAttribute at member
  induction text with
  | nil => cases member
  | cons head rest inductionHypothesis =>
    simp only [escapeKeeping] at member
    rcases List.mem_append.mp member with here | later
    · have own : written = head ∨ written ∈ "&;#39amplgtquo".toList := by
        split_ifs at here with ampersand completes reserved
        · exact Or.inl ((List.mem_singleton.mp here).trans ampersand.symm)
        · exact (mem_escapeChar here).imp_left fun equal => equal.trans ampersand.symm
        · exact mem_escapeChar here
        · exact Or.inl (List.mem_singleton.mp here)
      rcases own with rfl | reference
      · exact Or.inl List.mem_cons_self
      · exact Or.inr reference
    · exact (inductionHypothesis later).imp_left (List.mem_cons_of_mem _)

/-! ### References that are kept -/

/-- Whether a text starts with word characters up to a semicolon. -/
def startsWithTerminatedWord (text : Text) : Bool :=
  match text.dropWhile isWord with
  | ';' :: _ => text.head?.any isWord
  | _ => false

theorem completesReference_sign (rest : Text) :
    completesReference ('#' :: rest) = startsWithTerminatedWord rest := rfl

theorem completesReference_of_ne {head : Char} (other : head ≠ '#') (rest : Text) :
    completesReference (head :: rest) = startsWithTerminatedWord (head :: rest) := by
  unfold completesReference
  split
  · next equal =>
    cases equal
    exact absurd rfl other
  · rfl

theorem startsWithTerminatedWord_iff (text : Text) :
    startsWithTerminatedWord text = true ↔
      ∃ word rest, word ≠ [] ∧ (∀ c ∈ word, isWord c = true) ∧ text = word ++ ';' :: rest := by
  unfold startsWithTerminatedWord
  constructor
  · intro starts
    split at starts
    · next rest behind =>
      refine ⟨text.takeWhile isWord, rest, ?_, List.all_eq_true.mp List.all_takeWhile, ?_⟩
      · cases text with
        | nil => cases starts
        | cons head tail =>
          have word : isWord head = true := starts
          simp [word]
      · rw [← behind, List.takeWhile_append_dropWhile]
    · cases starts
  · rintro ⟨word, rest, nonempty, words, rfl⟩
    obtain ⟨first, others, rfl⟩ := List.exists_cons_of_ne_nil nonempty
    have out : isWord ';' = false := by decide
    have behind : (first :: others ++ ';' :: rest).dropWhile isWord = ';' :: rest := by
      rw [List.dropWhile_append_of_pos words, List.dropWhile_cons_of_neg (by simp [out])]
    rw [behind]
    exact words first List.mem_cons_self

/-- A kept reference is an ampersand in front of a body and a semicolon. -/
theorem completesReference_iff (text : Text) :
    completesReference text = true ↔
      ∃ front rest, CharRef.IsBody front ∧ text = front ++ ';' :: rest := by
  constructor
  · intro completes
    cases text with
    | nil => cases completes
    | cons head tail =>
      by_cases sign : head = '#'
      · subst sign
        rw [completesReference_sign, startsWithTerminatedWord_iff] at completes
        obtain ⟨word, rest, nonempty, words, rfl⟩ := completes
        exact ⟨'#' :: word, rest, ⟨word, Or.inr rfl, nonempty, words⟩, rfl⟩
      · rw [completesReference_of_ne sign, startsWithTerminatedWord_iff] at completes
        obtain ⟨word, rest, nonempty, words, equal⟩ := completes
        exact ⟨word, rest, ⟨word, Or.inl rfl, nonempty, words⟩, equal⟩
  · rintro ⟨front, rest, ⟨word, shape, nonempty, words⟩, rfl⟩
    have terminated : startsWithTerminatedWord (word ++ ';' :: rest) = true :=
      (startsWithTerminatedWord_iff _).mpr ⟨word, rest, nonempty, words, rfl⟩
    rcases shape with rfl | rfl
    · obtain ⟨first, others, rfl⟩ := List.exists_cons_of_ne_nil nonempty
      have other : first ≠ '#' := by
        rintro rfl
        exact absurd (words '#' List.mem_cons_self) (by decide)
      rw [List.cons_append, completesReference_of_ne other]
      exact terminated
    · exact terminated

/-- A character of a reference needs no escape. -/
theorem plain_of_mem_body {front : Text} (body : CharRef.IsBody front) {c : Char}
    (member : c ∈ front) : c ≠ '&' ∧ c ≠ '%' ∧ isReservedInAttribute c = false := by
  have plainWord {c : Char} (word : isWord c = true) :
      c ≠ '&' ∧ c ≠ '%' ∧ isReservedInAttribute c = false := by
    refine ⟨?_, ?_, ?_⟩
    · rintro rfl
      exact absurd word (by decide)
    · rintro rfl
      exact absurd word (by decide)
    · simp only [isReservedInAttribute, Bool.or_eq_false_iff, beq_eq_false_iff_ne]
      refine ⟨⟨⟨?_, ?_⟩, ?_⟩, ?_⟩ <;> rintro rfl <;> exact absurd word (by decide)
  obtain ⟨word, shape, nonempty, words⟩ := body
  rcases shape with rfl | rfl
  · exact plainWord (words c member)
  · rcases List.mem_cons.mp member with rfl | member
    · decide
    · exact plainWord (words c member)

theorem escapeChar_of_plain {c : Char} (other : c ≠ '&') (free : isReservedInAttribute c = false) :
    escapeChar c = [c] := by
  simp only [isReservedInAttribute, Bool.or_eq_false_iff, beq_eq_false_iff_ne] at free
  obtain ⟨⟨⟨less, greater⟩, quote⟩, apostrophe⟩ := free
  rw [escapeChar, if_neg other, if_neg less, if_neg greater, if_neg quote, if_neg apostrophe]

theorem escapeChar_of_mem_body {front : Text} (body : CharRef.IsBody front) {c : Char}
    (member : c ∈ front) : escapeChar c = [c] :=
  escapeChar_of_plain (plain_of_mem_body body member).1 (plain_of_mem_body body member).2.2

/-- Characters that stand for themselves are kept, whatever is reserved. -/
theorem escapeKeeping_append_of_plain (reserved : Char → Bool) {front : Text}
    (plain : ∀ c ∈ front, escapeChar c = [c]) (rest : Text) :
    escapeKeeping reserved (front ++ rest) = front ++ escapeKeeping reserved rest := by
  induction front with
  | nil => rfl
  | cons head front inductionHypothesis =>
    have kept := plain head List.mem_cons_self
    have other : head ≠ '&' := by
      rintro rfl
      exact absurd kept (by decide)
    rw [List.cons_append, escapeKeeping, if_neg other, kept, ite_self,
      inductionHypothesis fun c member => plain c (List.mem_cons_of_mem head member)]
    rfl

/-- So is a reference that the author typed. -/
theorem escapeKeeping_reference (reserved : Char → Bool) {front : Text}
    (body : CharRef.IsBody front) (rest : Text) :
    escapeKeeping reserved ('&' :: (front ++ ';' :: rest)) =
      '&' :: (front ++ ';' :: escapeKeeping reserved rest) := by
  have completes := (completesReference_iff (front ++ ';' :: rest)).mpr ⟨front, rest, body, rfl⟩
  have inside : ∀ c ∈ front ++ [';'], escapeChar c = [c] := by
    intro c member
    rcases List.mem_append.mp member with inFront | semicolon
    · exact escapeChar_of_mem_body body inFront
    · rw [List.mem_singleton.mp semicolon]
      rfl
  have behind := escapeKeeping_append_of_plain reserved inside rest
  rw [List.append_assoc, List.append_assoc, List.singleton_append, List.singleton_append] at behind
  rw [escapeKeeping, if_pos rfl, if_pos completes, behind]
  rfl

theorem escapeAttribute_reference {front : Text} (body : CharRef.IsBody front) (rest : Text) :
    escapeAttribute ('&' :: (front ++ ';' :: rest)) =
      '&' :: (front ++ ';' :: escapeAttribute rest) :=
  escapeKeeping_reference _ body rest

/-! ### Everything else -/

/-- A browser reads an escaped character as itself, unless it starts a kept reference. -/
theorem decode_escapeAttribute_cons {head : Char} {rest : Text}
    (other : head = '&' → completesReference rest = false) :
    CharRef.decode (escapeAttribute (head :: rest)) =
      head :: CharRef.decode (escapeAttribute rest) := by
  have written : escapeAttribute (head :: rest) = escapeChar head ++ escapeAttribute rest ∨
      head ≠ '&' ∧ escapeAttribute (head :: rest) = head :: escapeAttribute rest := by
    unfold escapeAttribute
    rw [escapeKeeping]
    split_ifs with ampersand completes reserved
    · rw [other ampersand] at completes
      cases completes
    · subst ampersand
      exact Or.inl rfl
    · exact Or.inl rfl
    · exact Or.inr ⟨ampersand, rfl⟩
  rcases written with equal | ⟨plain, equal⟩
  · rw [equal, CharRef.decode_escapeChar]
  · rw [equal, CharRef.decode_cons_of_ne plain]

end Html

end BookMarkup
