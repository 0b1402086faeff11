/-
This file proves that the guard of a feature reports exactly the packages that offend.

What the guard finds out about one package depends on that package and on what is installed, not
on the packages around it: it imports or not, and its version fits or not. A package can also be
malformed, or its code can raise an error when it is imported, so that one of these questions has no
answer; the guard then gives up with an error that is no lack. If every package can be examined,
the parts of the lack are read off the list by filtering, so that each offender stands in it once
and in its place.
-/

import BookMarkup.Package.Guard

namespace BookMarkup

namespace Package

/-! ### What offends -/

/-- Whether a name stands for a module by itself. -/
def isAbsolute (name : Text) : Bool :=
  !name.isEmpty && name.head? != some '.'

/-- Whether the module of a package imports. -/
def Environment.imports (environment : Environment) (requirement : Requirement) : Bool :=
  isAbsolute requirement.moduleName && environment.importResult requirement.moduleName == .works

/-- Why a module does not import. A module that raises another error has no import failure. -/
def Environment.importFailure? (environment : Environment) (name : Text) : Option ImportFailure :=
  match environment.importResult name with
  | .fails failure => some failure
  | .works | .raises _ => none

/-- The version that the installed distribution of a name states. -/
def Environment.statedVersion? (environment : Environment) (name : Text) : Option Text :=
  ((environment.distributionOf? name).map Distribution.version).filter fun version =>
    !version.isEmpty

/-- The requirements whose modules do not import. -/
def Environment.missing (environment : Environment) (requirements : List Requirement) :
    List Requirement :=
  requirements.filter fun requirement => !environment.imports requirement

section

variable {Release Demand : Type} (rules : Rules Release Demand)

/-- Whether the stated version of a distribution can be read and meets a demand. -/
def Environment.satisfies (environment : Environment) (name demand : Text) : Bool :=
  (environment.statedVersion? name).any fun stated =>
    (rules.version? stated).any fun version =>
      (rules.demand demand).toOption.any (rules.meets version)

/-- Whether a package demands no version or its distribution has one that meets the demand. -/
def Environment.fits (environment : Environment) (requirement : Requirement) : Bool :=
  requirement.demand.isEmpty ||
    (!requirement.distribution.isEmpty &&
      environment.satisfies rules requirement.distribution requirement.demand)

/-- The requirements whose modules import but whose versions do not fit. -/
def Environment.mismatched (environment : Environment) (requirements : List Requirement) :
    List Requirement :=
  requirements.filter fun requirement =>
    environment.imports requirement && !environment.fits rules requirement

/-- What a feature lacks: the offenders among its requirements in their order, and the first
failure to import one. -/
def Environment.report (environment : Environment) (feature : Text)
    (requirements : List Requirement) : Lack where
  feature := feature
  missing := (environment.missing requirements).map fun requirement =>
    (requirement.distribution, requirement.demand)
  mismatches := (environment.mismatched rules requirements).map fun requirement =>
    { distribution := requirement.distribution
      demand := requirement.demand
      installed := (environment.statedVersion? requirement.distribution).getD "unknown".toList }
  cause := requirements.findSome? fun requirement =>
    environment.importFailure? requirement.moduleName

/-- Whether every required package imports and fits. -/
def Environment.Provides (environment : Environment) (requirements : List Requirement) : Prop :=
  ∀ requirement ∈ requirements,
    environment.imports requirement ∧ environment.fits rules requirement

/-- Whether a distribution can be compared with a demand: it has a name, and its stated version
and the demand can be read. Without a stated version nothing is read. -/
structure Environment.IsComparable (environment : Environment) (name demand : Text) : Prop where
  named : name ≠ []
  readable : ∀ stated ∈ environment.statedVersion? name,
    (∃ version, rules.version? stated = some version) ∧
      ∃ demanded, rules.demand demand = .ok demanded

/-- Whether a package can be examined. Importing it raises no error but an import error. Its
distribution is looked at only if it imports and demands a version. -/
structure Environment.IsExaminable (environment : Environment) (requirement : Requirement) :
    Prop where
  absolute : isAbsolute requirement.moduleName
  quiet : ∀ error, environment.importResult requirement.moduleName ≠ .raises error
  comparable : environment.imports requirement → requirement.demand ≠ [] →
    environment.IsComparable rules requirement.distribution requirement.demand

/-- Whether a result is an error, but no lack. -/
def GivesUp {Outcome : Type} (result : Except Problem Outcome) : Prop :=
  ∃ problem, result = .error problem ∧ ∀ lack, problem ≠ .lacking lack

/-- How a package is named in a command that installs it: in quotes if it demands a version. -/
def Requirement.word (requirement : Requirement) : Text :=
  if requirement.demand = [] then requirement.distribution
  else ['"'] ++ requirement.distribution ++ requirement.demand ++ ['"']

/-! ### One package -/

theorem Environment.importModule_of_absolute (environment : Environment) {name : Text}
    (absolute : isAbsolute name) (quiet : ∀ error, environment.importResult name ≠ .raises error) :
    environment.importModule name = .ok (environment.importFailure? name) := by
  rw [isAbsolute, Bool.and_eq_true, Bool.not_eq_true', bne_iff_ne] at absolute
  rw [importModule, if_neg absolute.2, absolute.1, if_neg Bool.false_ne_true, importFailure?]
  cases imported : environment.importResult name with
  | works => rfl
  | fails failure => rfl
  | raises error => exact absurd imported (quiet error)

theorem Environment.givesUp_importModule (environment : Environment) {name : Text}
    (malformed : ¬(isAbsolute name ∧ ∀ error, environment.importResult name ≠ .raises error)) :
    GivesUp (environment.importModule name) := by
  rw [importModule]
  split
  · exact ⟨_, rfl, nofun⟩
  · next start =>
    split
    · exact ⟨_, rfl, nofun⟩
    · next named =>
      have absolute : isAbsolute name := by simp [isAbsolute, start, named]
      cases imported : environment.importResult name with
      | raises error => exact ⟨_, rfl, nofun⟩
      | works | fails => exact absurd ⟨absolute, fun error => by rw [imported]; nofun⟩ malformed

theorem Environment.imports_eq_isNone (environment : Environment) {requirement : Requirement}
    (absolute : isAbsolute requirement.moduleName)
    (quiet : ∀ error, environment.importResult requirement.moduleName ≠ .raises error) :
    environment.imports requirement =
      (environment.importFailure? requirement.moduleName).isNone := by
  rw [imports, absolute, Bool.true_and, importFailure?]
  cases imported : environment.importResult requirement.moduleName with
  | works => rfl
  | fails failure => rfl
  | raises error => exact absurd imported (quiet error)

theorem Environment.satisfies_iff (environment : Environment) {name demand : Text} :
    environment.satisfies rules name demand ↔
      ∃ stated version demanded, environment.statedVersion? name = some stated ∧
        rules.version? stated = some version ∧ rules.demand demand = .ok demanded ∧
          rules.meets version demanded := by
  simp only [satisfies, Option.any_eq_true]
  constructor
  · rintro ⟨stated, states, version, read, demanded, reads, meets⟩
    cases understood : rules.demand demand with
    | error part => rw [understood] at reads; cases reads
    | ok other =>
      rw [understood] at reads
      cases reads
      exact ⟨stated, version, demanded, states, read, rfl, meets⟩
  · rintro ⟨stated, version, demanded, states, read, reads, meets⟩
    exact ⟨stated, states, version, read, demanded, by rw [reads]; rfl, meets⟩

theorem Environment.versionOf?_of_named (environment : Environment) {name : Text}
    (named : name ≠ []) :
    environment.versionOf? name =
      .ok ((environment.distributionOf? name).map Distribution.version) :=
  if_neg (mt List.isEmpty_iff.mp named)

/-- Without a stated version no demand is met. -/
theorem Environment.meets_of_unstated {environment : Environment} {name : Text}
    (named : name ≠ []) (unstated : environment.statedVersion? name = none) (demand : Text) :
    environment.meets rules name demand = .ok (false, none) := by
  rw [meets, versionOf?_of_named environment named]
  cases found : environment.distributionOf? name with
  | none => rfl
  | some distribution =>
    have blank : distribution.version = [] := by simpa [statedVersion?, found] using unstated
    simp [blank]

/-- A stated version is read before the demand is. -/
theorem Environment.meets_of_stated {environment : Environment} {name stated : Text}
    (named : name ≠ []) (states : environment.statedVersion? name = some stated) (demand : Text) :
    environment.meets rules name demand =
      match rules.version? stated, rules.demand demand with
      | none, _ => .error (.invalidVersion stated)
      | some _, .error part => .error (.invalidDemand part)
      | some version, .ok demanded => .ok (rules.meets version demanded, some stated) := by
  rw [statedVersion?, Option.filter_eq_some_iff] at states
  have filled : ¬(stated.isEmpty : Prop) := by simpa using states.2
  rw [meets, versionOf?_of_named environment named, states.1]
  simp only [if_neg filled]
  cases rules.version? stated with
  | none => rfl
  | some version => cases rules.demand demand <;> rfl

/-- A distribution that can be compared with a demand gives the verdict on its stated version. -/
theorem Environment.meets_of_comparable {environment : Environment} {name demand : Text}
    (comparable : environment.IsComparable rules name demand) :
    environment.meets rules name demand =
      .ok (environment.satisfies rules name demand, environment.statedVersion? name) := by
  cases states : environment.statedVersion? name with
  | none => rw [meets_of_unstated rules comparable.named states, satisfies, states]; rfl
  | some stated =>
    obtain ⟨⟨version, read⟩, demanded, understood⟩ := comparable.readable stated states
    rw [meets_of_stated rules comparable.named states, read, understood, satisfies, states,
      Option.any_some, read, Option.any_some, understood]
    rfl

theorem Environment.givesUp_meets {environment : Environment} {name demand : Text}
    (incomparable : ¬environment.IsComparable rules name demand) :
    GivesUp (environment.meets rules name demand) := by
  by_cases named : name = []
  · exact ⟨.namelessDistribution, by rw [named]; rfl, nofun⟩
  · cases states : environment.statedVersion? name with
    | none => exact absurd ⟨named, by simp [states]⟩ incomparable
    | some stated =>
      rw [meets_of_stated rules named states]
      cases read : rules.version? stated with
      | none => exact ⟨_, rfl, nofun⟩
      | some version =>
        cases understood : rules.demand demand with
        | error part => exact ⟨_, rfl, nofun⟩
        | ok demanded => exact absurd ⟨named, by simp [states, read, understood]⟩ incomparable

/-- What the guard finds out about a package that can be examined. -/
def Environment.finding (environment : Environment) (requirement : Requirement) : Finding :=
  match environment.importFailure? requirement.moduleName with
  | some failure => .missing failure
  | none =>
    if environment.fits rules requirement then .fits
    else
      .mismatched ((environment.statedVersion? requirement.distribution).getD "unknown".toList)

theorem Environment.fits_of_demanded {environment : Environment} {requirement : Requirement}
    (demanded : requirement.demand ≠ []) (named : requirement.distribution ≠ []) :
    environment.fits rules requirement =
      environment.satisfies rules requirement.distribution requirement.demand := by
  rw [fits, List.isEmpty_eq_false_iff.mpr demanded, List.isEmpty_eq_false_iff.mpr named]
  rfl

theorem Environment.examine_of_examinable {environment : Environment} {requirement : Requirement}
    (examinable : environment.IsExaminable rules requirement) :
    environment.examine rules requirement = .ok (environment.finding rules requirement) := by
  rw [examine, importModule_of_absolute environment examinable.absolute examinable.quiet, finding]
  cases imported : environment.importFailure? requirement.moduleName with
  | some failure => rfl
  | none =>
    have imports : environment.imports requirement := by
      rw [imports_eq_isNone environment examinable.absolute examinable.quiet, imported]
      rfl
    by_cases undemanded : requirement.demand = []
    · simp [undemanded, fits]
    · have comparable := examinable.comparable imports undemanded
      rw [fits_of_demanded rules undemanded comparable.named]
      simp only [List.isEmpty_iff, if_neg undemanded, meets_of_comparable rules comparable]
      cases environment.satisfies rules requirement.distribution requirement.demand <;> rfl

theorem Environment.givesUp_examine {environment : Environment} {requirement : Requirement}
    (malformed : ¬environment.IsExaminable rules requirement) :
    GivesUp (environment.examine rules requirement) := by
  rw [examine]
  by_cases wellFormed : isAbsolute requirement.moduleName ∧
      ∀ error, environment.importResult requirement.moduleName ≠ .raises error
  · obtain ⟨absolute, quiet⟩ := wellFormed
    have incomparable : ¬(environment.imports requirement → requirement.demand ≠ [] →
        environment.IsComparable rules requirement.distribution requirement.demand) :=
      fun comparable => malformed ⟨absolute, quiet, comparable⟩
    simp only [Classical.not_imp] at incomparable
    obtain ⟨imports, demanded, incomparable⟩ := incomparable
    obtain ⟨problem, failed, noLack⟩ := givesUp_meets rules incomparable
    rw [imports_eq_isNone environment absolute quiet, Option.isNone_iff_eq_none] at imports
    rw [importModule_of_absolute environment absolute quiet, imports]
    simp only [List.isEmpty_iff, if_neg demanded, failed]
    exact ⟨problem, rfl, noLack⟩
  · obtain ⟨problem, failed, noLack⟩ := givesUp_importModule environment wellFormed
    rw [failed]
    exact ⟨problem, rfl, noLack⟩

/-- A package is examined exactly if it can be. -/
theorem Environment.isOk_examine_iff {environment : Environment} {requirement : Requirement} :
    (environment.examine rules requirement).isOk ↔ environment.IsExaminable rules requirement := by
  constructor
  · intro examined
    refine Classical.byContradiction fun malformed => ?_
    obtain ⟨problem, failed, -⟩ := givesUp_examine rules malformed
    rw [failed] at examined
    cases examined
  · intro examinable
    rw [examine_of_examinable rules examinable]
    rfl

/-! ### All packages -/

theorem Environment.lackOf_of_examinable {environment : Environment} (feature : Text)
    {requirements : List Requirement}
    (examinable : ∀ requirement ∈ requirements, environment.IsExaminable rules requirement) :
    environment.lackOf rules feature requirements =
      .ok (environment.report rules feature requirements) := by
  induction requirements with
  | nil => rfl
  | cons first others inductionHypothesis =>
    obtain ⟨firstExaminable, othersExaminable⟩ := List.forall_mem_cons.mp examinable
    have imports := imports_eq_isNone environment firstExaminable.absolute firstExaminable.quiet
    rw [lackOf, examine_of_examinable rules firstExaminable, inductionHypothesis othersExaminable,
      finding]
    -- The finding goes in front of its part of the lack, where filtering puts the package.
    cases imported : environment.importFailure? first.moduleName with
    | some failure => simp [report, missing, mismatched, imported, imports]
    | none =>
      cases fits : environment.fits rules first <;>
        simp [report, missing, mismatched, imported, imports, fits]

theorem Environment.givesUp_lackOf {environment : Environment} (feature : Text)
    {requirements : List Requirement}
    (malformed : ¬∀ requirement ∈ requirements, environment.IsExaminable rules requirement) :
    GivesUp (environment.lackOf rules feature requirements) := by
  induction requirements with
  | nil => exact absurd nofun malformed
  | cons first others inductionHypothesis =>
    rw [lackOf]
    by_cases firstExaminable : environment.IsExaminable rules first
    · obtain ⟨problem, failed, noLack⟩ := inductionHypothesis fun othersExaminable =>
        malformed (List.forall_mem_cons.mpr ⟨firstExaminable, othersExaminable⟩)
      rw [examine_of_examinable rules firstExaminable, failed]
      exact ⟨problem, rfl, noLack⟩
    · obtain ⟨problem, failed, noLack⟩ := givesUp_examine rules firstExaminable
      rw [failed]
      exact ⟨problem, rfl, noLack⟩

/-- The offenders of a report are the missing packages and then the mismatched ones. -/
theorem Environment.offenders_report (environment : Environment) (feature : Text)
    (requirements : List Requirement) :
    (environment.report rules feature requirements).offenders =
      (environment.missing requirements ++ environment.mismatched rules requirements).map
        fun requirement => (requirement.distribution, requirement.demand) := by
  rw [Lack.offenders, report, List.map_append, List.map_map]
  rfl

theorem Environment.isEmpty_offenders_report_iff (environment : Environment) (feature : Text)
    (requirements : List Requirement) :
    (environment.report rules feature requirements).offenders.isEmpty ↔
      environment.Provides rules requirements := by
  rw [offenders_report, List.isEmpty_iff, List.map_eq_nil_iff, List.append_eq_nil_iff, missing,
    mismatched, List.filter_eq_nil_iff, List.filter_eq_nil_iff]
  constructor
  · rintro ⟨noneMissing, noneMismatched⟩ requirement member
    have imports : environment.imports requirement := by simpa using noneMissing requirement member
    exact ⟨imports, by simpa [imports] using noneMismatched requirement member⟩
  · intro provided
    exact ⟨fun requirement member => by simp [(provided requirement member).1],
      fun requirement member => by simp [(provided requirement member).2]⟩

theorem installWord_eq (requirement : Requirement) :
    installWord (requirement.distribution, requirement.demand) = requirement.word := by
  simp only [installWord, Requirement.word, List.isEmpty_iff]

theorem Environment.message_report {environment : Environment} {requirements : List Requirement}
    (lacking : ¬environment.Provides rules requirements) (feature : Text) :
    (environment.report rules feature requirements).message =
      Text.join ['\n'] (environment.report rules feature requirements).paragraphs ++
        ("\nInstall with: pip install --upgrade ".toList ++
          Text.join [' ']
            ((environment.missing requirements ++ environment.mismatched rules requirements).map
              Requirement.word)) := by
  have offended :=
    mt (isEmpty_offenders_report_iff rules environment feature requirements).mp lacking
  have words : (installWord ∘ fun requirement : Requirement =>
      (requirement.distribution, requirement.demand)) = Requirement.word := funext installWord_eq
  rw [Lack.message, Lack.hint, if_neg offended, offenders_report, List.map_map, words]
  rfl

/-! ### The guard -/

/-- A package that imports and fits can be examined. -/
theorem Environment.isExaminable_of_fits {environment : Environment} {requirement : Requirement}
    (imports : environment.imports requirement) (fits : environment.fits rules requirement) :
    environment.IsExaminable rules requirement := by
  have works : environment.importResult requirement.moduleName = .works :=
    beq_iff_eq.mp (Bool.and_eq_true_iff.mp imports).2
  refine ⟨(Bool.and_eq_true_iff.mp imports).1, fun error => by rw [works]; nofun,
    fun _ demanded => ?_⟩
  rw [Environment.fits, List.isEmpty_eq_false_iff.mpr demanded, Bool.false_or,
    Bool.and_eq_true] at fits
  obtain ⟨stated, version, understood, states, read, reads, -⟩ :=
    (satisfies_iff rules environment).mp fits.2
  refine ⟨by simpa using fits.1, fun other statesOther => ?_⟩
  obtain rfl : stated = other := Option.some.inj (states.symm.trans statesOther)
  exact ⟨⟨version, read⟩, understood, reads⟩

/-- A feature that is provided for runs. One that is not provided for is reported if all its
packages can be examined, and the guard gives up if not. -/
theorem Environment.guard_cases {Arguments Result : Type} (environment : Environment)
    (feature : Text) (requirements : List Requirement) (run : Arguments → Result)
    (arguments : Arguments) :
    (environment.Provides rules requirements ∧
        environment.guard rules feature requirements run arguments = .ok (run arguments)) ∨
      ((∀ requirement ∈ requirements, environment.IsExaminable rules requirement) ∧
        ¬environment.Provides rules requirements ∧
        environment.guard rules feature requirements run arguments =
          .error (.lacking (environment.report rules feature requirements))) ∨
      ((¬∀ requirement ∈ requirements, environment.IsExaminable rules requirement) ∧
        ¬environment.Provides rules requirements ∧
        GivesUp (environment.guard rules feature requirements run arguments)) := by
  rw [guard]
  by_cases examinable : ∀ requirement ∈ requirements, environment.IsExaminable rules requirement
  · rw [lackOf_of_examinable rules feature examinable]
    have unoffended := isEmpty_offenders_report_iff rules environment feature requirements
    by_cases provided : environment.Provides rules requirements
    · exact .inl ⟨provided, if_pos (unoffended.mpr provided)⟩
    · exact .inr (.inl ⟨examinable, provided, if_neg (mt unoffended.mp provided)⟩)
  · obtain ⟨problem, failed, noLack⟩ := givesUp_lackOf rules feature examinable
    rw [failed]
    refine .inr (.inr ⟨examinable, fun provided => examinable fun requirement member => ?_,
      problem, rfl, noLack⟩)
    exact isExaminable_of_fits rules (provided requirement member).1
      (provided requirement member).2

/-- The guard runs a feature exactly if every required package imports and fits, and it runs it
with the arguments it was given. It reports a lack exactly if some package does not, provided
that all of them can be examined; the lack lists the missing and the mismatched packages in their
order, and its hint names each of them once, the missing ones first. -/
theorem Environment.guard_reports_offenders {Arguments Result : Type} (environment : Environment)
    (feature : Text) (requirements : List Requirement) (run : Arguments → Result)
    (arguments : Arguments) :
    let outcome := environment.guard rules feature requirements run arguments
    (∀ result, outcome = .ok result ↔
        environment.Provides rules requirements ∧ result = run arguments) ∧
      (∀ lack, outcome = .error (.lacking lack) ↔
        (∀ requirement ∈ requirements, environment.IsExaminable rules requirement) ∧
          ¬environment.Provides rules requirements ∧
          lack = environment.report rules feature requirements) ∧
      ∀ lack, outcome = .error (.lacking lack) →
        lack.message = Text.join ['\n'] lack.paragraphs ++
          ("\nInstall with: pip install --upgrade ".toList ++
            Text.join [' ']
              ((environment.missing requirements ++ environment.mismatched rules requirements).map
                Requirement.word)) := by
  intro outcome
  have reports (lack : Lack) : outcome = .error (.lacking lack) ↔
      (∀ requirement ∈ requirements, environment.IsExaminable rules requirement) ∧
        ¬environment.Provides rules requirements ∧
        lack = environment.report rules feature requirements := by
    rcases guard_cases rules environment feature requirements run arguments with
      ⟨provided, ran⟩ | ⟨examinable, lacking, reported⟩ |
      ⟨malformed, lacking, problem, failed, noLack⟩
    · simp [outcome, ran, provided]
    · have reported : outcome = .error (.lacking (environment.report rules feature requirements)) :=
        reported
      rw [reported, Except.error.injEq, Problem.lacking.injEq]
      exact ⟨fun same => ⟨examinable, lacking, same.symm⟩, fun same => same.2.2.symm⟩
    · simp [outcome, failed, malformed, noLack]
  refine ⟨fun result => ?_, reports, fun lack reported => ?_⟩
  · rcases guard_cases rules environment feature requirements run arguments with
      ⟨provided, ran⟩ | ⟨-, lacking, reported⟩ | ⟨-, lacking, problem, failed, -⟩
    · simp [outcome, ran, provided, eq_comm]
    · simp [outcome, reported, lacking]
    · simp [outcome, failed, lacking]
  · obtain ⟨-, lacking, rfl⟩ := (reports lack).mp reported
    exact message_report rules lacking feature

end

/-- Packages that are missing, broken, outdated or of no distribution are told apart, and one that
fits is not reported. -/
theorem mixed_offenders_reported :
    let environment : Environment :=
      { distributions := [⟨"Py_Draw".toList, "1.4".toList⟩, ⟨"numbers".toList, "2.0".toList⟩]
        modules := [("draw".toList, .works), ("broken".toList, .fails .broken),
          ("numbers".toList, .works), ("loose".toList, .works)] }
    let requirements : List Requirement :=
      [⟨"loose".toList, "loose".toList, ">=1".toList⟩,
        ⟨"broken".toList, "broken".toList, []⟩,
        ⟨"numbers".toList, "numbers".toList, ">=1.5,<3".toList⟩,
        ⟨"absent".toList, "absent".toList, "==2".toList⟩,
        ⟨"py-draw".toList, "draw".toList, ">=1.10".toList⟩]
    let lack := environment.report .dotted "plots".toList requirements
    environment.guard .dotted "plots".toList requirements id () = .error (.lacking lack) ∧
      lack.missing = [("broken".toList, []), ("absent".toList, "==2".toList)] ∧
      lack.mismatches =
        [⟨"loose".toList, ">=1".toList, "unknown".toList⟩,
          ⟨"py-draw".toList, ">=1.10".toList, "1.4".toList⟩] ∧
      lack.cause = some .broken ∧
      lack.message = Text.join ['\n'] lack.paragraphs ++
        ("\nInstall with: pip install --upgrade ".toList ++
          "broken \"absent==2\" \"loose>=1\" \"py-draw>=1.10\"".toList) := by
  intro environment requirements lack
  obtain ⟨-, reported, message⟩ :=
    Environment.guard_reports_offenders .dotted environment "plots".toList requirements id ()
  have examinable : ∀ requirement ∈ requirements, environment.IsExaminable .dotted requirement :=
    fun requirement member => (Environment.isOk_examine_iff .dotted).mp
      ((by decide : ∀ requirement ∈ requirements,
        (environment.examine .dotted requirement).isOk) requirement member)
  have lacking : ¬environment.Provides .dotted requirements := by
    intro provided
    exact absurd (provided _ List.mem_cons_self).2 (by decide)
  have isReported := (reported lack).mpr ⟨examinable, lacking, rfl⟩
  exact ⟨isReported, rfl, rfl, rfl, message lack isReported⟩

/-- An installed version that cannot be read is not reported, although the package imports and its
demand is well-formed: the guard gives up. -/
theorem unreadable_version_not_reported :
    let environment : Environment :=
      { distributions := [⟨"draw".toList, "banana".toList⟩]
        modules := [("draw".toList, .works)] }
    let requirement : Requirement := ⟨"draw".toList, "draw".toList, ">=1".toList⟩
    let outcome := environment.guard .dotted "plots".toList [requirement] id ()
    Rules.dotted.demand requirement.demand = .ok [.atLeast [1]] ∧
      environment.imports requirement ∧ ¬environment.fits .dotted requirement ∧
      outcome = .error (.invalidVersion "banana".toList) ∧
      ¬∃ lack, outcome = .error (.lacking lack) := by
  intro environment requirement outcome
  have givenUp : outcome = .error (.invalidVersion "banana".toList) := rfl
  refine ⟨rfl, by decide, by decide, givenUp, ?_⟩
  rintro ⟨lack, reported⟩
  cases givenUp.symm.trans reported

end Package

end BookMarkup
