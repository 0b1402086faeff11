/-
This file proves which texts a paragraph takes for blocks. Blanks in front do not matter,
and a front that starts and ends with a visible character settles the question.
-/

import BookMarkup.Hook.Block
import BookMarkup.Proofs.Text.Trim

namespace BookMarkup

namespace Hook

theorem isRawBlock_append_of_blanks {blanks : Text} (blank : ∀ c ∈ blanks, isBlank c = true)
    (rest : Text) : isRawBlock (blanks ++ rest) = isRawBlock rest := by
  rw [isRawBlock, Text.trim_append_of_blanks blank]
  rfl

/-- What a front with visible ends opens, the text opens. -/
theorem isRawBlock_append {front : Text} (starts : ∃ first ∈ front.head?, isBlank first = false)
    (ends : ∃ last ∈ front.getLast?, isBlank last = false) (rest : Text) :
    isRawBlock (front ++ rest) =
      ((front ++ Text.trimEnd rest).head? == some '<' &&
        !inlineStarts.any fun start => start.isPrefixOf (front ++ Text.trimEnd rest)) := by
  rw [isRawBlock, Text.trim_append_of_visible starts ends]

/-- A visible character that opens no tag starts no block. -/
theorem isRawBlock_cons {first : Char} (visible : isBlank first = false) (other : first ≠ '<')
    (rest : Text) : isRawBlock (first :: rest) = false := by
  have starts : ∃ c ∈ [first].head?, isBlank c = false := ⟨first, rfl, visible⟩
  have noTag : (some first == some '<') = false := by simpa using other
  have opens := isRawBlock_append starts ⟨first, rfl, visible⟩ rest
  rwa [List.singleton_append, List.singleton_append, List.head?_cons, noTag,
    Bool.false_and] at opens

/-- What emphasised, strong and struck-out content and links that point somewhere start with. -/
def phraseTags : List Text :=
  ["<em>".toList, "<strong>".toList, "<del>".toList, "<a href=\"".toList]

/-- These start no block. -/
theorem isRawBlock_phraseTag {tag : Text} (inline : tag ∈ phraseTags) (rest : Text) :
    isRawBlock (tag ++ rest) = false := by
  simp only [phraseTags, List.mem_cons, List.not_mem_nil, or_false] at inline
  rcases inline with rfl | rfl | rfl | rfl
  · exact isRawBlock_append ⟨'<', rfl, rfl⟩ ⟨'>', rfl, rfl⟩ rest
  · exact isRawBlock_append ⟨'<', rfl, rfl⟩ ⟨'>', rfl, rfl⟩ rest
  · exact isRawBlock_append ⟨'<', rfl, rfl⟩ ⟨'>', rfl, rfl⟩ rest
  · exact isRawBlock_append ⟨'<', rfl, rfl⟩ ⟨'"', rfl, rfl⟩ rest

theorem isRawBlock_element (tag : Text) (inline : tag ∈ phraseTags) (content closing rest : Text) :
    isRawBlock (tag ++ content ++ closing ++ rest) = false := by
  rw [List.append_assoc, List.append_assoc]
  exact isRawBlock_phraseTag inline _

/-- The tags of code spans and footnote marks do. -/
theorem isRawBlock_otherTag {tag : Text} (other : tag ∈ ["<code>".toList, "<sup".toList])
    (rest : Text) : isRawBlock (tag ++ rest) = true := by
  simp only [List.mem_cons, List.not_mem_nil, or_false] at other
  rcases other with rfl | rfl
  · exact isRawBlock_append ⟨'<', rfl, rfl⟩ ⟨'>', rfl, rfl⟩ rest
  · exact isRawBlock_append ⟨'<', rfl, rfl⟩ ⟨'p', rfl, rfl⟩ rest

end Hook

end BookMarkup
