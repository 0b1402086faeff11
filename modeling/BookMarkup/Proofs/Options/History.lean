/-
This file proves what options are after any history of updates and assignments. Applying
changes is the same for every field: the last change that names the field decides. An update
is checked as a whole before it takes the place of the options, so it counts with all its
changes or with none, and the options stay valid. An assignment never counts.
-/

import BookMarkup.Options

namespace BookMarkup

namespace Options

/-! ### Fields -/

/-- The fields of options. -/
inductive Field where
  | sanitize
  | baseUrl
  | xhtml
  | baseDirectory
  | chapter
  | tabReplacement
  | failOnResourceErrors
  | smallImageMaxWidth
  deriving DecidableEq, Repr

/-- The type of the values of a field. -/
abbrev Field.Value : Field → Type
  | .sanitize | .xhtml | .failOnResourceErrors => Bool
  | .baseUrl => Option Text
  | .baseDirectory | .tabReplacement => Text
  | .chapter | .smallImageMaxWidth => Int

/-- The value of a field. -/
def get (options : Options) : (field : Field) → field.Value
  | .sanitize => options.sanitize
  | .baseUrl => options.baseUrl
  | .xhtml => options.xhtml
  | .baseDirectory => options.baseDirectory
  | .chapter => options.chapter
  | .tabReplacement => options.tabReplacement
  | .failOnResourceErrors => options.failOnResourceErrors
  | .smallImageMaxWidth => options.smallImageMaxWidth

/-- The value that a change gives to a field, if it names the field. -/
def Change.valueFor? : (field : Field) → Change → Option field.Value
  | .sanitize, .sanitize value => some value
  | .baseUrl, .baseUrl value => some value
  | .xhtml, .xhtml value => some value
  | .baseDirectory, .baseDirectory value => some value
  | .chapter, .chapter value => some value
  | .tabReplacement, .tabReplacement value => some value
  | .failOnResourceErrors, .failOnResourceErrors value => some value
  | .smallImageMaxWidth, .smallImageMaxWidth value => some value
  | _, _ => none

/-- The value that the last of some changes which names a field gives to it. -/
def lastGiven? (field : Field) (changes : List Change) : Option field.Value :=
  (changes.filterMap (Change.valueFor? field)).getLast?

/-! ### Applying changes -/

/-- A change sets the field that it names and leaves the others alone. -/
theorem get_apply (options : Options) (change : Change) (field : Field) :
    (options.apply change).get field = (change.valueFor? field).getD (options.get field) := by
  cases field <;> cases change <;> rfl

theorem get_foldl_apply (changes : List Change) (options : Options) (field : Field) :
    (changes.foldl apply options).get field =
      (lastGiven? field changes).getD (options.get field) := by
  induction changes generalizing options with
  | nil => rfl
  | cons change others inductionHypothesis =>
    rw [List.foldl_cons, inductionHypothesis, get_apply]
    cases named : change.valueFor? field with
    | none => simp [lastGiven?, named]
    | some value => simp [lastGiven?, named, List.getLast?_cons]

/-! ### Checked updates -/

/-- Whether changes name only fields and leave every value in range, whatever valid options they
are applied to. -/
def Acceptable (changes : List Change) : Prop :=
  (∀ name, .unknown name ∉ changes) ∧
    (∀ value ∈ lastGiven? .chapter changes, (0 : Int) ≤ value) ∧
    ∀ value ∈ lastGiven? .smallImageMaxWidth changes, (0 : Int) < value

theorem firstUnknown?_eq_none_iff {changes : List Change} :
    firstUnknown? changes = none ↔ ∀ name, .unknown name ∉ changes := by
  rw [firstUnknown?, List.findSome?_eq_none_iff]
  constructor
  · intro known name member
    cases known _ member
  · intro known change member
    cases change with
    | unknown name => exact absurd member (known name)
    | _ => rfl

theorem check_of_valid {options : Options} (valid : Valid options) :
    options.check = .ok options := by
  rw [check, if_neg (Int.not_lt.mpr valid.1), if_neg (Int.not_le.mpr valid.2)]

/-- An update that succeeds applies all its changes and gives valid options. -/
theorem of_update {options next : Options} {changes : List Change}
    (updated : options.update changes = .ok next) :
    next = changes.foldl apply options ∧ Valid next ∧ firstUnknown? changes = none := by
  unfold update at updated
  split at updated
  · cases updated
  · next known => exact ⟨(valid_of_check updated).1, (valid_of_check updated).2, known⟩

/-- Applying changes to valid options gives valid options exactly if the values are in range. -/
theorem valid_foldl_apply_iff {options : Options} (valid : Valid options) (changes : List Change) :
    Valid (changes.foldl apply options) ↔
      (∀ value ∈ lastGiven? .chapter changes, (0 : Int) ≤ value) ∧
        ∀ value ∈ lastGiven? .smallImageMaxWidth changes, (0 : Int) < value := by
  have chapter : (changes.foldl apply options).chapter =
      (lastGiven? .chapter changes).getD options.chapter := get_foldl_apply changes options .chapter
  have width : (changes.foldl apply options).smallImageMaxWidth =
      (lastGiven? .smallImageMaxWidth changes).getD options.smallImageMaxWidth :=
    get_foldl_apply changes options .smallImageMaxWidth
  rw [Valid, chapter, width]
  refine and_congr ?_ ?_
  · cases lastGiven? .chapter changes with
    | none => simp [valid.1]
    | some value => simp
  · cases lastGiven? .smallImageMaxWidth changes with
    | none => simp [valid.2]
    | some value => simp

theorem update_succeeds_iff {options : Options} (valid : Valid options) (changes : List Change) :
    (∃ next, options.update changes = .ok next) ↔ Acceptable changes := by
  constructor
  · rintro ⟨next, updated⟩
    obtain ⟨rfl, inRange, known⟩ := of_update updated
    exact ⟨firstUnknown?_eq_none_iff.mp known, (valid_foldl_apply_iff valid changes).mp inRange⟩
  · rintro ⟨known, inRange⟩
    refine ⟨changes.foldl apply options, ?_⟩
    rw [update, firstUnknown?_eq_none_iff.mpr known]
    exact check_of_valid ((valid_foldl_apply_iff valid changes).mpr inRange)

/-! ### Steps -/

/-- The options after steps taken one after the other. -/
def afterAll (options : Options) (steps : List Step) : Options :=
  steps.foldl after options

/-- The changes of the updates that succeed when steps are taken one after the other. -/
def granted (options : Options) (steps : List Step) : List (List Change) :=
  (steps.zip (options.run steps)).filterMap fun
    | (.update changes, .ok _) => some changes
    | _ => none

theorem after_of_error {options : Options} {taken : Step} {problem : Problem}
    (failed : options.step taken = .error problem) : options.after taken = options := by
  rw [after, failed]

theorem valid_after {options : Options} (valid : Valid options) (taken : Step) :
    Valid (options.after taken) := by
  unfold after
  split
  · next next' done =>
    cases taken with
    | update changes => exact (of_update done).2.1
    | assign name => cases done
  · exact valid

theorem valid_afterAll {options : Options} (valid : Valid options) (steps : List Step) :
    Valid (options.afterAll steps) := by
  induction steps generalizing options with
  | nil => exact valid
  | cons first others inductionHypothesis => exact inductionHypothesis (valid_after valid first)

/-- The result of a step is its result for the options that the earlier steps leave. -/
theorem run_getElem? (options : Options) (steps : List Step) (place : Nat) :
    (options.run steps)[place]? = steps[place]?.map (options.afterAll (steps.take place)).step := by
  induction steps generalizing options place with
  | nil => rfl
  | cons first others inductionHypothesis =>
    cases place with
    | zero => rfl
    | succ place => exact inductionHypothesis (options.after first) place

theorem granted_of_ok {options next : Options} {changes : List Change}
    (updated : options.update changes = .ok next) (others : List Step) :
    options.granted (.update changes :: others) = changes :: next.granted others := by
  have done : options.step (.update changes) = .ok next := updated
  rw [granted, run, after, done]
  rfl

theorem granted_of_error {options : Options} {taken : Step} {problem : Problem}
    (failed : options.step taken = .error problem) (others : List Step) :
    options.granted (taken :: others) = options.granted others := by
  rw [granted, run, after, failed, List.zip_cons_cons, List.filterMap_cons]
  cases taken <;> rfl

/-- The options after some steps are those that the granted changes make, applied in order. -/
theorem afterAll_eq_foldl (options : Options) (steps : List Step) :
    options.afterAll steps = (options.granted steps).flatten.foldl apply options := by
  induction steps generalizing options with
  | nil => rfl
  | cons taken others inductionHypothesis =>
    have later : options.afterAll (taken :: others) = (options.after taken).afterAll others := rfl
    rw [later, inductionHypothesis]
    cases done : options.step taken with
    | error problem => rw [after_of_error done, granted_of_error done]
    | ok next =>
      cases taken with
      | assign name => cases done
      | update changes =>
        have updated : options.update changes = .ok next := done
        rw [granted_of_ok updated, List.flatten_cons, List.foldl_append, after, done,
          ← (of_update updated).1]

/-- Along every history options stay valid, a step that fails leaves them as they were, an
assignment always fails, and an update succeeds exactly if it is acceptable. In the end each field
has the value that the last successful update which named it gave to it, or its first value. -/
theorem options_stay_valid_and_updates_are_atomic {given : List Change} {options : Options}
    (constructed : ofChanges given = .ok options) (steps : List Step) :
    (∀ place : Nat, Valid (options.afterAll (steps.take place))) ∧
      (∀ (place : Nat) (problem : Problem), (options.run steps)[place]? = some (.error problem) →
        options.afterAll (steps.take (place + 1)) = options.afterAll (steps.take place)) ∧
      (∀ (place : Nat) (name : Text), steps[place]? = some (.assign name) →
        (options.run steps)[place]? = some (.error (.assigned name))) ∧
      (∀ (place : Nat) (changes : List Change), steps[place]? = some (.update changes) →
        ((∃ next, (options.run steps)[place]? = some (.ok next)) ↔ Acceptable changes)) ∧
      ∀ field, (options.afterAll steps).get field =
        (lastGiven? field (options.granted steps).flatten).getD (options.get field) := by
  have valid : Valid options := (of_update constructed).2.1
  refine ⟨fun place => valid_afterAll valid _, fun place problem failed => ?_,
    fun place name taken => ?_, fun place changes taken => ?_, fun field => ?_⟩
  · rw [run_getElem?] at failed
    obtain ⟨taken, here, failed⟩ := Option.map_eq_some_iff.mp failed
    rw [List.take_add_one, here, afterAll, List.foldl_append]
    exact after_of_error failed
  · rw [run_getElem?, taken]
    rfl
  · rw [run_getElem?, taken, ← update_succeeds_iff (valid_afterAll valid (steps.take place))]
    simp only [Option.map_some, Option.some.injEq]
    rfl
  · rw [afterAll_eq_foldl]
    exact get_foldl_apply _ options field

/-- Changes that stand beside a bad one are void with it, those of other updates are not. -/
theorem bad_change_voids_its_update :
    let first : Options := { chapter := 2 }
    let steps : List Step :=
      [.update [.chapter 3, .xhtml true], .update [.sanitize true, .chapter (-1)],
        .assign "xhtml".toList, .update [.xhtml false, .unknown "nope".toList],
        .update [.smallImageMaxWidth 600]]
    ofChanges [.chapter 2] = .ok first ∧ Valid (first.afterAll steps) ∧
      (first.afterAll steps).get .chapter = (3 : Int) ∧ (first.afterAll steps).get .xhtml = true ∧
      (first.afterAll steps).get .sanitize = false ∧
      (first.afterAll steps).get .smallImageMaxWidth = (600 : Int) := by
  intro first steps
  have constructed : ofChanges [.chapter 2] = .ok first := rfl
  obtain ⟨valid, -, -, -, values⟩ := options_stay_valid_and_updates_are_atomic constructed steps
  exact ⟨constructed, valid 5, values .chapter, values .xhtml, values .sanitize,
    values .smallImageMaxWidth⟩

end Options

end BookMarkup
