/-
This file says what a hook can result in: markup or a failure, warnings in the order in
which they arise, and the state afterwards. A failure keeps the warnings and the state
changes that came before it. Hooks run one after the other, and the first failure ends
the run.
-/

import BookMarkup.Options
import BookMarkup.RenderState
import BookMarkup.Tools
import BookMarkup.Url.Clean

namespace BookMarkup

/-- What a renderer works with. -/
structure Setting where
  /-- The options. -/
  options : Options
  /-- The libraries. -/
  tools : Tools

/-! ### Warnings and failures -/

/-- A warning about something that was left out. -/
inductive Warning where
  /-- A video URL holds no identifier. -/
  | videoWithoutId (url : Text)
  /-- An image was dropped because its source can run script. -/
  | unsafeSource (url : Text)
  /-- The size of an image cannot be read. -/
  | unreadableSize (url : Text) (cause : Image.Unreadable)
  deriving DecidableEq, Repr

/-- The message about an image whose size cannot be read. -/
def unreadableSizeMessage (url : Text) : Text :=
  "Unable to read size of \"".toList ++ url ++ ['"']

/-- The message of a warning. The one about an unreadable size goes on with its cause. -/
def Warning.message : Warning → Text
  | .videoWithoutId url => "Unable to find a video id in \"".toList ++ url ++ ['"']
  | .unsafeSource url => "Dropped image with unsafe source \"".toList ++ url ++ ['"']
  | .unreadableSize url cause => unreadableSizeMessage url ++ ": ".toList ++ cause.message

/-- Why a hook fails. -/
inductive Failure where
  /-- The size of an image cannot be read, and the options ask to fail. -/
  | unreadableImage (url : Text) (cause : Image.Unreadable)
  /-- An error passes through the probing of an image. -/
  | escaped (error : Image.Escaped)
  /-- A URL that has to be checked holds a reference with too long a number. -/
  | longNumber (number : CharRef.LongNumber)
  deriving DecidableEq, Repr

/-- The message of a failure. -/
def Failure.message : Failure → Text
  | .unreadableImage url _ => unreadableSizeMessage url
  | .escaped error => error.message
  | .longNumber number => number.message

/-- The stage of rendering that a failure names. An error that passes through names none. -/
def Failure.stage? : Failure → Option Text
  | .unreadableImage _ _ => some "image".toList
  | .escaped _ | .longNumber _ => none

/-- The error of the probe that a failure wraps. -/
def Failure.origin? : Failure → Option Image.Unreadable
  | .unreadableImage _ cause => some cause
  | .escaped _ | .longNumber _ => none

/-! ### Outcomes -/

/-- What running hooks results in. -/
structure Outcome (Result : Type) where
  /-- The result or the failure. -/
  result : Except Failure Result
  /-- The warnings in order. -/
  warnings : List Warning
  /-- The state afterwards. -/
  state : RenderState

/-- A run of hooks: what it results in from a state. -/
def Render (Result : Type) :=
  RenderState → Outcome Result

namespace Render

/-- A run that does nothing but give a result. -/
def give {Result : Type} (result : Result) : Render Result :=
  fun state => ⟨.ok result, [], state⟩

/-- Runs one after the other. The second run does not happen if the first one fails. -/
def andThen {First Second : Type} (first : Render First) (next : First → Render Second) :
    Render Second := fun state =>
  let outcome := first state
  match outcome.result with
  | .error failure => ⟨.error failure, outcome.warnings, outcome.state⟩
  | .ok result =>
    let following := next result outcome.state
    ⟨following.result, outcome.warnings ++ following.warnings, following.state⟩

instance : Monad Render where
  pure := give
  bind := andThen

end Render

end BookMarkup
