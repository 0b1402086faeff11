/-
This file proves what probing an image file can come to. The imaging library is examined
first, and the examination does not depend on the file. Where the library is there and
keeps its promises, an opened image has pixels, so its height is a percentage of its width,
a refused file is unreadable, and the error for too many pixels passes through.

The files of a storage are opened as the library promises, whatever their bytes are.
-/

import BookMarkup.Image.File
import Mathlib.Tactic.SplitIfs

namespace BookMarkup

/-- Whether a guarded feature runs does not depend on the feature. -/
theorem Package.Installation.guard_eq_map {Arguments Result : Type}
    (installation : Package.Installation) (feature : Text) (requirements : List Package.Requirement)
    (run : Arguments → Result) (arguments : Arguments) :
    installation.guard feature requirements run arguments =
      (installation.guard feature requirements id ()).map fun _ => run arguments := by
  unfold Package.Installation.guard Package.Environment.guard
  cases installation.environment.lackOf installation.rules feature requirements with
  | error problem => rfl
  | ok lack =>
    simp only
    split_ifs <;> rfl

namespace Image

/-! ### The library -/

/-- What examining the imaging library gives. -/
def examined (installation : Package.Installation) : Except Package.Problem Unit :=
  installation.guard "image probing".toList requirements id ()

variable {openImage : Text → Opening} {installation : Package.Installation} {path : Text}

/-- The library is examined before a file is opened. -/
theorem guard_readSize (openImage : Text → Opening) (installation : Package.Installation)
    (path : Text) :
    installation.guard "image probing".toList requirements (readSize openImage) path =
      (examined installation).map fun _ => readSize openImage path :=
  installation.guard_eq_map _ _ _ _

/-- A library that is there reads the size. -/
theorem probe_of_examined (there : examined installation = .ok ()) :
    probe openImage installation path = readSize openImage path := by
  rw [probe, guard_readSize, there]
  rfl

/-- Without the library, or with an old one, the size is unreadable. -/
theorem probe_of_lacking {lack : Package.Lack}
    (lacking : examined installation = .error (.lacking lack)) :
    probe openImage installation path = .error (.unreadable (.lacking lack)) := by
  rw [probe, guard_readSize, lacking]
  rfl

/-- A library that cannot be examined ends probing with an error of its own. -/
theorem probe_of_unexamined {problem : Package.Problem}
    (fails : examined installation = .error problem)
    (noLack : ∀ lack, problem ≠ .lacking lack) :
    probe openImage installation path = .error (.escaped (.unexamined problem)) := by
  rw [probe, guard_readSize, fails]
  cases problem with
  | lacking lack => exact absurd rfl (noLack lack)
  | _ => rfl

/-! ### The size -/

/-- The size of an opened image is read. -/
theorem IsDocumented.readSize_of_opened (documented : IsDocumented openImage) {size : Size}
    (opens : openImage path = .opened size) : readSize openImage path = .ok size := by
  obtain ⟨wide, high⟩ := documented.positive opens
  unfold readSize
  rw [opens]
  exact if_neg (by omega)

/-- There is room to be kept for an opened image. -/
theorem IsDocumented.exists_ratio (documented : IsDocumented openImage) {size : Size}
    (opens : openImage path = .opened size) : ∃ ratio, size.ratioPercent? = some ratio := by
  have wide := (documented.positive opens).1
  exact ⟨_, if_neg (by omega)⟩

theorem readSize_of_refused {error : ForeignError} (refuses : openImage path = .refused error) :
    readSize openImage path = .error (.unreadable (.refused path error)) := by
  rw [readSize, refuses]

theorem readSize_of_oversized {size : Size} (oversized : openImage path = .oversized size) :
    readSize openImage path = .error (.escaped (.oversized size)) := by
  rw [readSize, oversized]

/-! ### Headers -/

variable {width height : Nat}

namespace Header

theorem pos_of_ofSize {first second : Nat} (given : ofSize first second = .size width height) :
    0 < width ∧ 0 < height := by
  unfold ofSize at given
  split at given
  · cases given
  · next nonempty =>
    cases given
    simpa [Nat.pos_iff_ne_zero] using nonempty

theorem pos_of_ofSize? {found : Option (Nat × Nat)} (given : ofSize? found = .size width height) :
    0 < width ∧ 0 < height := by
  cases found with
  | none => cases given
  | some size => exact pos_of_ofSize given

/-- The chunks give a size only where the image data starts. -/
theorem pos_of_readChunks {fuel : Nat} {found : Option (Nat × Nat)} {bytes : List UInt8}
    (given : readChunks fuel found bytes = .size width height) : 0 < width ∧ 0 < height := by
  induction fuel generalizing found bytes with
  | zero => cases given
  | succ fuel inductionHypothesis =>
    simp only [readChunks] at given
    split_ifs at given
    · exact pos_of_ofSize? given
    · exact inductionHypothesis given
    · exact inductionHypothesis given

/-- The segments give a size only where the scan starts. -/
theorem pos_of_readSegments {fuel : Nat} {found : Option (Nat × Nat)} {bytes : List UInt8}
    (given : readSegments fuel found bytes = .size width height) : 0 < width ∧ 0 < height := by
  induction fuel generalizing found bytes with
  | zero => cases given
  | succ fuel inductionHypothesis =>
    unfold readSegments at given
    split at given
    · exact inductionHypothesis given
    · simp only at given
      split_ifs at given
      · exact pos_of_ofSize? given
      · exact inductionHypothesis given
      · exact inductionHypothesis given
      · exact inductionHypothesis given
    · exact inductionHypothesis given
    · cases given

theorem pos_of_readBitmap {bytes : List UInt8} (given : readBitmap bytes = .size width height) :
    0 < width ∧ 0 < height := by
  unfold readBitmap at given
  simp only at given
  split_ifs at given
  · exact pos_of_ofSize given
  · exact pos_of_ofSize given

/-- No header gives an image without pixels. -/
theorem pos_of_ofBytes {bytes : List UInt8} (given : ofBytes bytes = .size width height) :
    0 < width ∧ 0 < height := by
  unfold ofBytes at given
  split_ifs at given
  · exact pos_of_readChunks given
  · exact pos_of_ofSize given
  · exact pos_of_readBitmap given
  · exact pos_of_readSegments given

end Header

/-! ### Files -/

/-- Opening a file in a storage either refuses it or goes by the size in its header. -/
theorem openIn_cases (storage : Storage) (path : Text) :
    (∃ error, openIn storage path = .refused error) ∨
      ∃ width height : Nat, 0 < width ∧ 0 < height ∧
        openIn storage path =
          if pixelLimit < width * height then .oversized ⟨width, height⟩
          else .opened ⟨width, height⟩ := by
  unfold openIn
  cases storage.read path with
  | error obstacle => exact Or.inl ⟨_, rfl⟩
  | ok bytes =>
    cases given : Header.ofBytes bytes with
    | size width height =>
      obtain ⟨wide, high⟩ := Header.pos_of_ofBytes given
      refine Or.inr ⟨width, height, wide, high, ?_⟩
      simp only [given, openHeader]
    | truncated => exact Or.inl ⟨_, congrArg (openHeader path) given⟩
    | unrecognised => exact Or.inl ⟨_, congrArg (openHeader path) given⟩
    | unsupported length => exact Or.inl ⟨_, congrArg (openHeader path) given⟩

/-- The files of a storage are opened as the library promises. -/
theorem isDocumented_openIn (storage : Storage) : IsDocumented (openIn storage) := by
  have limit {width height : Nat} :
      pixelLimit < width * height ↔ (pixelLimit : Int) < (width : Int) * (height : Int) := by
    rw [← Int.natCast_mul, Int.ofNat_lt]
  constructor
  · intro path size opens
    rcases openIn_cases storage path with ⟨error, refused⟩ | ⟨width, height, wide, high, goes⟩
    · rw [refused] at opens
      cases opens
    · rw [goes] at opens
      split_ifs at opens
      cases opens
      exact ⟨Int.natCast_pos.mpr wide, Int.natCast_pos.mpr high⟩
  · intro path size opens
    rcases openIn_cases storage path with ⟨error, refused⟩ | ⟨width, height, -, -, goes⟩
    · rw [refused] at opens
      cases opens
    · rw [goes] at opens
      split_ifs at opens with oversized
      cases opens
      exact Int.not_lt.mp (mt limit.mpr oversized)
  · intro path size opens
    rcases openIn_cases storage path with ⟨error, refused⟩ | ⟨width, height, -, -, goes⟩
    · rw [refused] at opens
      cases opens
    · rw [goes] at opens
      split_ifs at opens with oversized
      cases opens
      exact limit.mp oversized
  · intro path error opens
    rcases openIn_cases storage path with ⟨error, refused⟩ | ⟨width, height, -, -, goes⟩
    · rw [refused] at opens
      cases opens
    · rw [goes] at opens
      split_ifs at opens

end Image

end BookMarkup
