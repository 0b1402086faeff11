/-
This file guards a feature that needs packages. Every package has to import and, where
a version is demanded, its installed distribution has to meet the demand. When a
package offends, the feature is not run and the error lists all offenders in order. A
package that cannot even be examined, because a name, a version or a demand of it is
malformed or its import ends in an error that is no import error, ends the examination at
once.
-/

import BookMarkup.ForeignError
import BookMarkup.Package.Specifier
import BookMarkup.Text.Quoted
import BookMarkup.Text.Word

namespace BookMarkup

namespace Package

/-! ### What is installed -/

/-- An installed distribution. -/
structure Distribution where
  /-- The name it is published under. -/
  name : Text
  /-- Its version as it is written. -/
  version : Text
  deriving DecidableEq, Repr

/-- Why a module does not import. -/
inductive ImportFailure where
  /-- There is no such module. -/
  | absent
  /-- The module exists but fails when it is imported. -/
  | broken
  deriving DecidableEq, Repr

/-- What importing a module results in. -/
inductive ImportResult where
  /-- The module is imported. -/
  | works
  /-- The import fails with an import error. -/
  | fails (failure : ImportFailure)
  /-- The code of the module raises another error. -/
  | raises (error : ForeignError)
  deriving DecidableEq, Repr

/-- Everything that is installed. -/
structure Environment where
  /-- The installed distributions. -/
  distributions : List Distribution
  /-- The modules that exist, and what importing them results in. -/
  modules : List (Text × ImportResult)
  deriving DecidableEq, Repr

/-- Imports a module. A module that does not exist fails to import. -/
def Environment.importResult (environment : Environment) (name : Text) : ImportResult :=
  (environment.modules.lookup name).getD (.fails .absent)

/-- The form under which distribution names are compared: small letters, and every run of
hyphens, underscores and dots is one hyphen. -/
def canonicalName : Text → Text
  | [] => []
  | head :: rest =>
    let isSeparator := fun c : Char => c == '-' || c == '_' || c == '.'
    if isSeparator head then
      if rest.head?.any isSeparator then canonicalName rest else '-' :: canonicalName rest
    else head.toLower :: canonicalName rest

/-! ### Problems -/

/-- A package that a feature needs. -/
structure Requirement where
  /-- The name of the distribution. -/
  distribution : Text
  /-- The name of the module to import. -/
  moduleName : Text
  /-- The demand on the version; empty for none. -/
  demand : Text
  deriving DecidableEq, Repr

/-- An importable package whose version does not meet the demand. -/
structure Mismatch where
  /-- The name of the distribution. -/
  distribution : Text
  /-- The demand on the version. -/
  demand : Text
  /-- The installed version. -/
  installed : Text
  deriving DecidableEq, Repr

/-- What a feature lacks. -/
structure Lack where
  /-- The name of the feature. -/
  feature : Text
  /-- The packages that do not import, with their demands. -/
  missing : List (Text × Text)
  /-- The packages whose version does not fit. -/
  mismatches : List Mismatch
  /-- A command that mends the lack; empty for the usual one. -/
  installCommand : Text := []
  /-- Why the first missing package does not import. -/
  cause : Option ImportFailure := none
  deriving DecidableEq, Repr

/-- Why a guarded feature does not run. -/
inductive Problem where
  /-- Packages are missing or do not fit. -/
  | lacking (lack : Lack)
  /-- A demand cannot be read. -/
  | invalidDemand (demand : Text)
  /-- An installed version cannot be read. -/
  | invalidVersion (version : Text)
  /-- The name of a distribution is empty. -/
  | namelessDistribution
  /-- The name of a module is empty. -/
  | namelessModule
  /-- The name of a module is relative to a package, but there is none. -/
  | relativeModule (name : Text)
  /-- The code of a module raises an error that is no import error. -/
  | moduleRaised (error : ForeignError)
  deriving DecidableEq, Repr

/-! ### Messages -/

/-- A demanded package, quoted if it names a demand. -/
def installWord (package : Text × Text) : Text :=
  if package.2.isEmpty then package.1 else ['"'] ++ package.1 ++ package.2 ++ ['"']

/-- What has to be installed: the missing packages and then the mismatched ones. -/
def Lack.offenders (lack : Lack) : List (Text × Text) :=
  lack.missing ++ lack.mismatches.map fun mismatch => (mismatch.distribution, mismatch.demand)

/-- The paragraphs about missing and mismatched packages. -/
def Lack.paragraphs (lack : Lack) : List Text :=
  let missing :=
    if lack.missing.isEmpty then []
    else
      [lack.feature ++ " requires the following packages: ".toList ++
        Text.join ", ".toList
          (lack.missing.map fun (name, demand) => ['\''] ++ name ++ demand ++ ['\''])]
  let mismatched :=
    if lack.mismatches.isEmpty then []
    else
      [lack.feature ++ " has version mismatches: ".toList ++
        Text.join ", ".toList
          (lack.mismatches.map fun mismatch =>
            ['\''] ++ mismatch.distribution ++ "' (requires ".toList ++ mismatch.demand ++
              ", but ".toList ++ mismatch.installed ++ " is installed)".toList)]
  missing ++ mismatched

/-- The hint how to install what is lacking. -/
def Lack.hint (lack : Lack) : Text :=
  if !lack.installCommand.isEmpty then "\nInstall with: ".toList ++ lack.installCommand
  else if lack.offenders.isEmpty then []
  else
    "\nInstall with: pip install --upgrade ".toList ++
      Text.join [' '] (lack.offenders.map installWord)

/-- The message about a lack. -/
def Lack.message (lack : Lack) : Text :=
  Text.join ['\n'] lack.paragraphs ++ lack.hint

/-- The message about a problem. -/
def Problem.message : Problem → Text
  | .lacking lack => lack.message
  | .invalidDemand demand => "Invalid specifier: ".toList ++ Quoted.encode demand
  | .invalidVersion version => "Invalid version: ".toList ++ Quoted.encode version
  | .namelessDistribution => "A distribution name is required.".toList
  | .namelessModule => "Empty module name".toList
  | .relativeModule name =>
    "the 'package' argument is required to perform a relative import for ".toList ++
      Quoted.encode name
  | .moduleRaised error => error.message

/-! ### Looking up versions -/

/-- The installed distribution of a name. -/
def Environment.distributionOf? (environment : Environment) (name : Text) : Option Distribution :=
  environment.distributions.find? fun distribution =>
    canonicalName distribution.name == canonicalName name

/-- The installed version of a distribution. -/
def Environment.versionOf? (environment : Environment) (name : Text) :
    Except Problem (Option Text) :=
  if name.isEmpty then .error .namelessDistribution
  else .ok ((environment.distributionOf? name).map Distribution.version)

section

variable {Release Demand : Type} (rules : Rules Release Demand)

/-- Whether the installed version of a distribution meets a demand, and that version. A
distribution that is not installed meets none, and its demand is not read; the version of an
installed one is read before the demand. -/
def Environment.meets (environment : Environment) (name demand : Text) :
    Except Problem (Bool × Option Text) :=
  match environment.versionOf? name with
  | .error problem => .error problem
  | .ok none => .ok (false, none)
  | .ok (some installed) =>
    if installed.isEmpty then .ok (false, none)
    else
      match rules.version? installed with
      | none => .error (.invalidVersion installed)
      | some version =>
        match rules.demand demand with
        | .error part => .error (.invalidDemand part)
        | .ok demanded => .ok (rules.meets version demanded, some installed)

/-! ### The guard -/

/-- What is wrong with one package. -/
inductive Finding where
  /-- The package imports and its version fits. -/
  | fits
  /-- The package does not import. -/
  | missing (failure : ImportFailure)
  /-- The installed version does not fit. -/
  | mismatched (installed : Text)
  deriving DecidableEq, Repr

/-- Imports the module of a package, or says why it does not import. -/
def Environment.importModule (environment : Environment) (name : Text) :
    Except Problem (Option ImportFailure) :=
  if name.head? = some '.' then .error (.relativeModule name)
  else if name.isEmpty then .error .namelessModule
  else
    match environment.importResult name with
    | .works => .ok none
    | .fails failure => .ok (some failure)
    | .raises error => .error (.moduleRaised error)

/-- Examines one package. The version is looked at only if the package imports and a version is
demanded. -/
def Environment.examine (environment : Environment) (requirement : Requirement) :
    Except Problem Finding :=
  match environment.importModule requirement.moduleName with
  | .error problem => .error problem
  | .ok (some failure) => .ok (.missing failure)
  | .ok none =>
    if requirement.demand.isEmpty then .ok .fits
    else
      match environment.meets rules requirement.distribution requirement.demand with
      | .error problem => .error problem
      | .ok (true, _) => .ok .fits
      | .ok (false, installed) => .ok (.mismatched (installed.getD "unknown".toList))

/-- Examines packages in order and puts what is wrong into a lack. -/
def Environment.lackOf (environment : Environment) (feature : Text) :
    List Requirement → Except Problem Lack
  | [] => .ok { feature, missing := [], mismatches := [] }
  | requirement :: others =>
    match environment.examine rules requirement with
    | .error problem => .error problem
    | .ok finding =>
      match environment.lackOf feature others with
      | .error problem => .error problem
      | .ok lack =>
        match finding with
        | .fits => .ok lack
        | .missing failure =>
          .ok { lack with
            missing := (requirement.distribution, requirement.demand) :: lack.missing
            cause := some failure }
        | .mismatched installed =>
          .ok { lack with
            mismatches :=
              ⟨requirement.distribution, requirement.demand, installed⟩ :: lack.mismatches }

/-- Runs a feature with its arguments if nothing that it needs is lacking. -/
def Environment.guard {Arguments Result : Type} (environment : Environment) (feature : Text)
    (requirements : List Requirement) (run : Arguments → Result) (arguments : Arguments) :
    Except Problem Result :=
  match environment.lackOf rules feature requirements with
  | .error problem => .error problem
  | .ok lack =>
    if lack.offenders.isEmpty then .ok (run arguments) else .error (.lacking lack)

end

/-- What is installed together with the rules for its versions. -/
structure Installation where
  /-- How versions are read. -/
  Release : Type
  /-- How demands are read. -/
  Demand : Type
  /-- The rules for versions. -/
  rules : Rules Release Demand
  /-- What is installed. -/
  environment : Environment

/-- Runs a feature on an installation. -/
def Installation.guard {Arguments Result : Type} (installation : Installation) (feature : Text)
    (requirements : List Requirement) (run : Arguments → Result) (arguments : Arguments) :
    Except Problem Result :=
  installation.environment.guard installation.rules feature requirements run arguments

end Package

end BookMarkup
