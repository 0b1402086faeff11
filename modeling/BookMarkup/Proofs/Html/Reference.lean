/-
This file proves that a browser reads a character reference from letters, digits, number
signs and semicolons alone. All known names are spelt with letters and digits of ASCII. So
whatever character ends a run of these characters, nothing from that character on plays a
part in reading the reference in front of it, even where the run of a name goes on.
-/

import BookMarkup.Proofs.Html.CharRef
import BookMarkup.Proofs.Text.Letter
import BookMarkup.Proofs.Text.Occurrence
import Mathlib.Data.List.Find
import Mathlib.Data.List.TakeWhile

namespace BookMarkup

/-! ### Letters and digits -/

theorem isAlphanum_of_hexValue? {c : Char} {value : Nat}
    (digit : Percent.hexValue? c = some value) : c.isAlphanum = true := by
  have code : c.val.toNat = c.toNat := rfl
  have smalls : 'a'.val.toNat = 0x61 ∧ 'f'.val.toNat = 0x66 := ⟨rfl, rfl⟩
  have capitals : 'A'.val.toNat = 0x41 ∧ 'F'.val.toNat = 0x46 := ⟨rfl, rfl⟩
  unfold Percent.hexValue? at digit
  split_ifs at digit with decimal small capital
  · simp [Char.isAlphanum, decimal]
  · simp only [Char.le_def, UInt32.le_iff_toNat_le] at small
    rw [isAlphanum_iff]
    omega
  · simp only [Char.le_def, UInt32.le_iff_toNat_le] at capital
    rw [isAlphanum_iff]
    omega

/-- A string whose bytes are those of letters and digits holds nothing else. -/
theorem isAlphanum_of_bytes {name : String}
    (bytes : name.toByteArray.data.toList.all (fun byte => (Char.ofNat byte.toNat).isAlphanum) =
      true) {c : Char} (member : c ∈ name.toList) : c.isAlphanum = true := by
  have spelled : name.toByteArray.data.toList = name.toList.flatMap String.utf8EncodeChar := by
    rw [← String.utf8Encode_toList, List.utf8Encode, List.toList_data_toByteArray]
  rw [spelled, List.all_flatMap, List.all_eq_true] at bytes
  have own := bytes c member
  have code : c.val.toNat = c.toNat := rfl
  -- The first byte of a longer form is no letter and no digit.
  have first {byte : Nat} (small : byte < 0x100) (large : 0xC0 ≤ byte) :
      (Char.ofNat byte).isAlphanum = false := by
    have all : ∀ byte < 0x100, 0xC0 ≤ byte → (Char.ofNat byte).isAlphanum = false := by
      decide +kernel
    exact all byte small large
  simp only [String.utf8EncodeChar, code] at own
  split_ifs at own with one
  · have byte : (UInt8.ofNat c.toNat).toNat = c.toNat := by
      rw [UInt8.toNat_ofNat']
      omega
    simpa [byte] using own
  all_goals
    rw [List.all_cons, first (UInt8.toNat_lt _) (by rw [UInt8.toNat_ofNat']; omega)] at own
    cases own

namespace CharRef

/-! ### Names -/

theorem names_alphanum : (NameTable.bare ++ NameTable.closed).all (fun row =>
    row.1.toByteArray.data.toList.all fun byte => (Char.ofNat byte.toNat).isAlphanum) = true := by
  decide +kernel

/-- A name is spelt with letters and digits. -/
theorem isAlphanum_of_mem_name {row : Text × Text} (known : row ∈ allNames) {c : Char}
    (member : c ∈ row.1) : c.isAlphanum = true := by
  obtain ⟨entry, inTable, rfl⟩ := List.mem_map.mp known
  exact isAlphanum_of_bytes (List.all_eq_true.mp names_alphanum entry inTable) member

theorem mem_allNames_of_mem_bareNames {row : Text × Text} (known : row ∈ bareNames) :
    row ∈ allNames := by
  obtain ⟨entry, inTable, rfl⟩ := List.mem_map.mp known
  exact List.mem_map_of_mem (List.mem_append_left _ inTable)

theorem ne_nil_of_mem_bareNames {row : Text × Text} (known : row ∈ bareNames) : row.1 ≠ [] := by
  have named : NameTable.bare.all (fun entry => entry.1.toByteArray.size != 0) = true := by
    decide +kernel
  obtain ⟨entry, inTable, rfl⟩ := List.mem_map.mp known
  have size := List.all_eq_true.mp named entry inTable
  intro empty
  have blank : entry.1 = "" := String.toList_inj.mp empty
  rw [blank] at size
  cases size

variable {stop : Char}

/-- A name ends in front of a character that no name holds. -/
theorem prefix_append_stop_iff (out : stop.isAlphanum = false) {row : Text × Text}
    (known : row ∈ allNames) (front rest : Text) :
    row.1 <+: front ++ stop :: rest ↔ row.1 <+: front := by
  refine ⟨fun ⟨tail, spelled⟩ => ?_, fun starts => starts.trans (List.prefix_append _ _)⟩
  rcases List.append_eq_append_iff.mp spelled with ⟨others, whole, -⟩ | ⟨others, whole, behind⟩
  · exact ⟨others, whole.symm⟩
  · cases others with
    | nil => exact ⟨[], by rw [whole, List.append_nil, List.append_nil]⟩
    | cons first others =>
      have inside : stop ∈ row.1 := by
        rw [whole, (List.cons.inj behind).1]
        exact List.mem_append_right _ List.mem_cons_self
      rw [isAlphanum_of_mem_name known inside] at out
      cases out

/-! ### Reading up to a stop -/

/-- A run that holds a character of no name is read as far as the name at its start. -/
theorem lookup?_append_stop (out : stop.isAlphanum = false) (front rest : Text)
    (terminated : Bool) :
    lookup? (front ++ stop :: rest) terminated = lookup? front false := by
  have unknown : allNames.lookup (front ++ stop :: rest) = none := by
    refine List.lookup_eq_none_iff.mpr fun row known => ?_
    rw [bne_iff_ne]
    intro equal
    have inside : stop ∈ row.1 := by
      rw [← equal]
      exact List.mem_append_right _ List.mem_cons_self
    rw [isAlphanum_of_mem_name known inside] at out
    cases out
  have same : (bareNames.find? fun row => row.1.isPrefixOf (front ++ stop :: rest)) =
      bareNames.find? fun row => row.1.isPrefixOf front := by
    refine List.find?_congr fun row known => ?_
    rw [Bool.eq_iff_iff, List.isPrefixOf_iff_prefix, List.isPrefixOf_iff_prefix]
    exact prefix_append_stop_iff out (mem_allNames_of_mem_bareNames known) front rest
  have whole : (if terminated then allNames.lookup (front ++ stop :: rest) else none) = none := by
    rw [unknown, ite_self]
  unfold lookup?
  rw [whole]
  exact congrArg (Option.map _) same

/-- Nothing starts with a name where no character stands. -/
theorem lookup?_nil : lookup? [] false = none := by
  have nothing : (bareNames.find? fun row => row.1.isPrefixOf []) = none := by
    refine List.find?_eq_none.mpr fun row known => ?_
    rw [List.isPrefixOf_iff_prefix, List.prefix_nil]
    exact ne_nil_of_mem_bareNames known
  unfold lookup?
  exact congrArg (Option.map _) nothing

/-- Whether a character may stand between an ampersand and the end of its reference. -/
def isReferenceChar (c : Char) : Bool :=
  c.isAlphanum || c == '#' || c == ';'

theorem stop_of_not_isReferenceChar (out : isReferenceChar stop = false) :
    stop.isAlphanum = false ∧ stop ≠ '#' ∧ stop ≠ ';' := by
  simpa [isReferenceChar, and_assoc] using out

theorem head?_append_stop (noEnd : stop ≠ ';') (text : Text) :
    ((text ++ [stop]).head? == some ';') = (text.head? == some ';') := by
  cases text with
  | nil => simpa using noEnd
  | cons head rest => rfl

theorem readDigits_append_stop (strict : Bool) (base opening : Nat) {isDigit : Char → Bool}
    (out : isDigit stop = false) (noEnd : stop ≠ ';') (most : Option Nat) (front rest : Text) :
    readDigits strict base opening isDigit most (front ++ stop :: rest) =
      readDigits strict base opening isDigit most front := by
  simp only [readDigits, takeWhile_append_stop isDigit out,
    head?_dropWhile_append_stop isDigit out, head?_append_stop noEnd]

/-- The name at the start of a run is read as if nothing stood from the stop on, whether the run
ends in front of the stop, goes on behind it or is cut because it is too long. -/
theorem readName_append_stop (out : isReferenceChar stop = false) (front rest : Text) :
    readName false (front ++ stop :: rest) = readName false front := by
  obtain ⟨noName, -, noEnd⟩ := stop_of_not_isReferenceChar out
  have cut (same : ((front ++ stop :: rest).takeWhile isNameChar).take 32 =
      (front.takeWhile isNameChar).take 32) :
      readName false (front ++ stop :: rest) = readName false front := by
    have within : ((front.takeWhile isNameChar).take 32).length ≤ front.length :=
      Nat.le_trans (List.length_take_le' 32 _) (List.takeWhile_prefix isNameChar).length_le
    simp only [readName, same, head?_drop_append_cons within, head?_append_stop noEnd]
  by_cases ends : isNameChar stop = true
  · by_cases whole : (front.takeWhile isNameChar).length = front.length
    · have run : (front ++ stop :: rest).takeWhile isNameChar =
          front ++ stop :: rest.takeWhile isNameChar := by
        rw [List.takeWhile_append, if_pos whole, List.takeWhile_cons_of_pos ends]
      have all : front.takeWhile isNameChar = front :=
        (List.takeWhile_prefix isNameChar).eq_of_length whole
      by_cases long : 32 ≤ front.length
      · refine cut ?_
        rw [run, all, List.take_append_of_le_length long]
      · obtain ⟨more, size⟩ : ∃ more, 32 = front.length + (more + 1) :=
          ⟨31 - front.length, by omega⟩
        have longer : ((front ++ stop :: rest).takeWhile isNameChar).take 32 =
            front ++ stop :: (rest.takeWhile isNameChar).take more := by
          rw [run, size, List.take_length_add_append, List.take_succ_cons]
        have own : (front.takeWhile isNameChar).take 32 = front := by
          rw [all, List.take_of_length_le (by omega)]
        have here : readName false (front ++ stop :: rest) = lookup? front false := by
          have nonempty : (front ++ stop :: (rest.takeWhile isNameChar).take more).isEmpty =
            false := by simp
          simp only [readName, longer, nonempty, Bool.false_and, Bool.or_self, Bool.false_eq_true,
            if_false, lookup?_append_stop noName]
        have there : readName false front = lookup? front false := by
          simp only [readName, own, List.drop_length, List.head?_nil]
          cases front with
          | nil => exact lookup?_nil.symm
          | cons first others => rfl
        rw [here, there]
    · refine cut ?_
      rw [List.takeWhile_append, if_neg whole]
  · exact cut (by rw [takeWhile_append_stop isNameChar (Bool.eq_false_iff.mpr ends)])

/-! ### References -/

/-- A reference is read as if nothing stood from a character on that it does not hold. -/
theorem read?_append_stop (out : isReferenceChar stop = false) (front rest : Text) :
    read? false (front ++ stop :: rest) = read? false front := by
  obtain ⟨noName, noSign, noEnd⟩ := stop_of_not_isReferenceChar out
  have noDigit : stop.isDigit = false := by
    simp only [Char.isAlphanum, Bool.or_eq_false_iff] at noName
    exact noName.2
  have noHexDigit : isHexDigit stop = false := by
    unfold isHexDigit
    cases digit : Percent.hexValue? stop with
    | none => rfl
    | some value =>
      rw [isAlphanum_of_hexValue? digit] at noName
      cases noName
  have noMark {mark : Char} (isMark : mark.isAlphanum = true) : stop ≠ mark := by
    rintro rfl
    rw [isMark] at noName
    cases noName
  have digits (base opening : Nat) {isDigit : Char → Bool} (other : isDigit stop = false)
      (most : Option Nat) (front : Text) :=
    readDigits_append_stop false base opening other noEnd most front rest
  cases front with
  | nil =>
    rw [List.nil_append, read?_of_no_sign false noSign]
    exact readName_append_stop out [] rest
  | cons first others =>
    by_cases sign : first = '#'
    · subst sign
      cases others with
      | nil =>
        exact (read?_decimal false (noMark (by decide)) (noMark (by decide)) rest).trans
          (digits 10 1 noDigit (some 7) [])
      | cons second others =>
        by_cases small : second = 'x'
        · subst small
          exact digits 16 2 noHexDigit none others
        by_cases capital : second = 'X'
        · subst capital
          exact digits 16 2 noHexDigit none others
        · refine (read?_decimal false small capital (others ++ stop :: rest)).trans ?_
          rw [read?_decimal false small capital]
          exact digits 10 1 noDigit (some 7) (second :: others)
    · rw [List.cons_append, read?_of_no_sign false sign, read?_of_no_sign false sign]
      exact readName_append_stop out (first :: others) rest

/-- A reference is read from the characters at the front that it may hold. -/
theorem read?_takeWhile (text : Text) :
    read? false (text.takeWhile isReferenceChar) = read? false text := by
  have whole := List.takeWhile_append_dropWhile (p := isReferenceChar) (l := text)
  cases behind : text.dropWhile isReferenceChar with
  | nil =>
    rw [behind, List.append_nil] at whole
    rw [whole]
  | cons stop rest =>
    rw [behind] at whole
    have out : isReferenceChar stop = false := Text.eq_false_of_dropWhile_eq_cons behind
    calc read? false (text.takeWhile isReferenceChar)
        = read? false (text.takeWhile isReferenceChar ++ stop :: rest) :=
          (read?_append_stop out _ rest).symm
      _ = read? false text := by rw [whole]

/-- The digits of a reference are among the characters that it may hold. -/
theorem decimalDigits_takeWhile (text : Text) :
    decimalDigits (text.takeWhile isReferenceChar) = decimalDigits text := by
  cases text with
  | nil => rfl
  | cons head rest =>
    by_cases sign : head = '#'
    · subst sign
      have digit (c : Char) (isDigit : c.isDigit = true) : isReferenceChar c = true := by
        simp [isReferenceChar, Char.isAlphanum, isDigit]
      show (List.takeWhile Char.isDigit (rest.takeWhile isReferenceChar)).length =
        (rest.takeWhile Char.isDigit).length
      rw [List.takeWhile_takeWhile]
      congr 2
      funext c
      simpa using digit c
    · have none' (others : Text) : decimalDigits (head :: others) = 0 := by
        unfold decimalDigits
        split <;> simp_all
      rw [List.takeWhile_cons, none']
      split
      · exact none' _
      · rfl

end CharRef

end BookMarkup
