/-
This file holds the options of a renderer. Options never change; a derived copy is
made by applying changes. The changes are applied together or not at all: an unknown
name or a value out of range refuses all of them.
-/

import BookMarkup.Text.Quoted

namespace BookMarkup

/-- The options of a renderer. -/
structure Options where
  /-- Reject link targets whose scheme can run script. -/
  sanitize : Bool := false
  /-- The URL that relative link targets are resolved against. -/
  baseUrl : Option Text := none
  /-- Close void elements as XML does. -/
  xhtml : Bool := false
  /-- The directory that image paths are resolved against. -/
  baseDirectory : Text := []
  /-- The number of the chapter, which heads every heading number. -/
  chapter : Int := 1
  /-- What a tab in a highlighted listing becomes. -/
  tabReplacement : Text := ['\t']
  /-- Fail when the size of an image cannot be read, instead of warning. -/
  failOnResourceErrors : Bool := false
  /-- The greatest width of an image that is marked as small. -/
  smallImageMaxWidth : Int := 400
  deriving DecidableEq, Repr

namespace Options

/-- A change of one option. -/
inductive Change where
  | sanitize (value : Bool)
  | baseUrl (value : Option Text)
  | xhtml (value : Bool)
  | baseDirectory (value : Text)
  | chapter (value : Int)
  | tabReplacement (value : Text)
  | failOnResourceErrors (value : Bool)
  | smallImageMaxWidth (value : Int)
  /-- A change that names no option. -/
  | unknown (name : Text)
  deriving DecidableEq, Repr

/-- Why options are refused. -/
inductive Problem where
  /-- A change names no option. -/
  | unknownName (name : Text)
  /-- The number of the chapter is negative. -/
  | negativeChapter (value : Int)
  /-- The width limit of small images is not positive. -/
  | widthNotPositive (value : Int)
  /-- An option was assigned to. -/
  | assigned (name : Text)
  deriving DecidableEq, Repr

/-- The message about refused options. -/
def Problem.message : Problem → Text
  | .unknownName name =>
    "RendererOptions.__init__() got an unexpected keyword argument '".toList ++ name ++ ['\'']
  | .negativeChapter value => "chapter must be non-negative, got ".toList ++ Text.ofInt value
  | .widthNotPositive value =>
    "small_image_max_width must be positive, got ".toList ++ Text.ofInt value
  | .assigned name => "cannot assign to field ".toList ++ Quoted.encode name

/-- The message about a value of another type that was given in place of options. -/
def wrongTypeMessage (received : Text) : Text :=
  "book renderer expected options of type 'RendererOptions', but received '".toList ++ received ++
    "'.".toList

/-- Applies one change. -/
def apply (options : Options) : Change → Options
  | .sanitize value => { options with sanitize := value }
  | .baseUrl value => { options with baseUrl := value }
  | .xhtml value => { options with xhtml := value }
  | .baseDirectory value => { options with baseDirectory := value }
  | .chapter value => { options with chapter := value }
  | .tabReplacement value => { options with tabReplacement := value }
  | .failOnResourceErrors value => { options with failOnResourceErrors := value }
  | .smallImageMaxWidth value => { options with smallImageMaxWidth := value }
  | .unknown _ => options

/-- The first name in a list of changes that is no option. -/
def firstUnknown? (changes : List Change) : Option Text :=
  changes.findSome? fun change =>
    match change with
    | .unknown name => some name
    | _ => none

/-- Options whose values are in range. -/
def Valid (options : Options) : Prop :=
  0 ≤ options.chapter ∧ 0 < options.smallImageMaxWidth

/-- Refuses options that are out of range. The chapter is checked first. -/
def check (options : Options) : Except Problem Options :=
  if options.chapter < 0 then .error (.negativeChapter options.chapter)
  else if options.smallImageMaxWidth ≤ 0 then .error (.widthNotPositive options.smallImageMaxWidth)
  else .ok options

/-- Derives options by applying changes from left to right. Names are checked before values. -/
def update (options : Options) (changes : List Change) : Except Problem Options :=
  match firstUnknown? changes with
  | some name => .error (.unknownName name)
  | none => check (changes.foldl apply options)

/-- Options that differ from the defaults by some changes. -/
def ofChanges (changes : List Change) : Except Problem Options :=
  update {} changes

/-- A step in the life of options. -/
inductive Step where
  /-- Derive a copy and go on with it. -/
  | update (changes : List Change)
  /-- Assign to a field, which never works. -/
  | assign (name : Text)
  deriving DecidableEq, Repr

/-- What a step results in. -/
def step (options : Options) : Step → Except Problem Options
  | .update changes => options.update changes
  | .assign name => .error (.assigned name)

/-- The options after a step: those of a failed step are the ones before it. -/
def after (options : Options) (taken : Step) : Options :=
  match options.step taken with
  | .ok next => next
  | .error _ => options

/-- The results of steps taken one after the other. -/
def run (options : Options) : List Step → List (Except Problem Options)
  | [] => []
  | first :: others => options.step first :: (options.after first).run others

/-- Checked options are valid and unchanged. -/
theorem valid_of_check {options checked : Options} (passed : options.check = .ok checked) :
    checked = options ∧ Valid checked := by
  simp only [check] at passed
  split at passed
  · simp at passed
  · split at passed
    · simp at passed
    · simp only [Except.ok.injEq] at passed
      subst passed
      exact ⟨rfl, by simp only [Valid]; omega⟩

end Options

end BookMarkup
