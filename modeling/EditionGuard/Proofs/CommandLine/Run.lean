import EditionGuard.CommandLine.Run
import EditionGuard.Proofs.CommandLine.Items
import EditionGuard.Proofs.Report.Print

/-!
# Runs of the command line

A run merges what the words say into the options of a file, checks the folder in a session with
the merged options, and prints the report of this session.  It ends well if and only if the
session holds no error.
-/

namespace EditionGuard

namespace CommandLine

/-- The options of the file that items name, or else those that nothing has been said about. -/
def baseOptions (files : FileSystem) (items : List Item) : Except Problem Options :=
  match valuesOf .config items with
  | [] => .ok {}
  | path :: _ => Options.ofFile files path.toList

/-- Whether options are those of a file overridden and extended by what items say. -/
structure Merges (items : List Item) (base merged : Options) : Prop where
  ecmaVersion : merged.ecmaVersion =
    ((valuesOf .edition items).head?.bind Edition.ofText?).or base.ecmaVersion
  targets : merged.targets =
    if valuesOf .target items = [] then base.targets else some (valuesOf .target items)
  rootPath : merged.rootPath = (valuesOf .root items).head?.or base.rootPath
  exclude : merged.exclude = base.exclude ++ valuesOf .exclude items
  excludeOutput : merged.excludeOutput = base.excludeOutput ++ valuesOf .excludeOutput items
  excludeErrorMessage :
    merged.excludeErrorMessage = base.excludeErrorMessage ++ valuesOf .excludeMessage items
  excludeErrorLogs : merged.excludeErrorLogs.map some =
    base.excludeErrorLogs.map some ++
      (valuesOf .excludeLog items).map Report.Field.ofKey?
  verbosity : merged.verbosity =
    if .flag .quiet ∈ items then .quiet
    else if .flag .verbose ∈ items then .verbose else base.verbosity
  color : merged.color = true ↔ base.color = true ∧ .flag .noColor ∉ items

theorem Merges.unique {items : List Item} {base merged other : Options}
    (merges : Merges items base merged) (otherMerges : Merges items base other) :
    other = merged := by
  have fields : other.excludeErrorLogs = merged.excludeErrorLogs := by
    refine (List.map_inj_right fun _ _ => Option.some.inj).mp ?_
    rw [otherMerges.excludeErrorLogs, merges.excludeErrorLogs]
  have colors : other.color = merged.color := by
    rw [Bool.eq_iff_iff, otherMerges.color, merges.color]
  have versions := otherMerges.ecmaVersion.trans merges.ecmaVersion.symm
  have targets := otherMerges.targets.trans merges.targets.symm
  have roots := otherMerges.rootPath.trans merges.rootPath.symm
  have sources := otherMerges.exclude.trans merges.exclude.symm
  have outputs := otherMerges.excludeOutput.trans merges.excludeOutput.symm
  have messages := otherMerges.excludeErrorMessage.trans merges.excludeErrorMessage.symm
  have verbosities := otherMerges.verbosity.trans merges.verbosity.symm
  cases other
  cases merged
  simp_all only

namespace Arguments

variable {arguments : Arguments} {items : List Item}

theorem threshold_lt_warning_iff (notBoth : ¬ (0 < arguments.verbose ∧ 0 < arguments.quiet)) :
    arguments.threshold < LogLevel.warning.rank ↔ 0 < arguments.quiet := by
  have rank : LogLevel.warning.rank = 2 := rfl
  have all : noThreshold = 5 := rfl
  rw [threshold, rank, all]
  omega

theorem warning_lt_threshold_iff (notBoth : ¬ (0 < arguments.verbose ∧ 0 < arguments.quiet)) :
    LogLevel.warning.rank < arguments.threshold ↔ 0 < arguments.verbose := by
  have rank : LogLevel.warning.rank = 2 := rfl
  have all : noThreshold = 5 := rfl
  rw [threshold, rank, all]
  omega

theorem Collects.edition_eq (collects : arguments.Collects items) :
    arguments.edition = (valuesOf .edition items).head?.bind Edition.ofText? := by
  have read := collects.edition
  cases given : arguments.edition with
  | none =>
      rw [given, eq_comm] at read
      rw [List.map_eq_nil_iff.mp read]
      rfl
  | some edition =>
      rw [given, eq_comm] at read
      obtain ⟨value, _, isValues, isEdition, _⟩ := List.map_eq_cons_iff.mp read
      rw [isValues]
      exact isEdition.symm

/-- How much the report says is set by flags for less or more; without them it stays. -/
theorem Collects.verbosity_eq (collects : arguments.Collects items)
    (notBoth : ¬ (.flag .verbose ∈ items ∧ .flag .quiet ∈ items)) (base : Options) :
    (arguments.options base).verbosity =
      if .flag .quiet ∈ items then .quiet
      else if .flag .verbose ∈ items then .verbose else base.verbosity := by
  have isQuiet : 0 < arguments.quiet ↔ .flag .quiet ∈ items := by
    rw [collects.quiet, List.count_pos_iff]
  have isVerbose : 0 < arguments.verbose ↔ .flag .verbose ∈ items := by
    rw [collects.verbose, List.count_pos_iff]
  have notBothCounts : ¬ (0 < arguments.verbose ∧ 0 < arguments.quiet) := by
    rwa [isVerbose, isQuiet]
  simp only [options, threshold_lt_warning_iff notBothCounts,
    warning_lt_threshold_iff notBothCounts, isQuiet, isVerbose]

theorem Collects.merges (collects : arguments.Collects items)
    (notBoth : ¬ (.flag .verbose ∈ items ∧ .flag .quiet ∈ items)) (base : Options) :
    Merges items base (arguments.options base) where
  ecmaVersion := by rw [options, collects.edition_eq]
  targets := by
    rw [options, ← collects.targets]
    simp
  rootPath := by
    rw [options, ← collects.root]
    cases arguments.root <;> rfl
  exclude := by rw [options, collects.exclude]
  excludeOutput := by rw [options, collects.excludeOutput]
  excludeErrorMessage := by rw [options, collects.excludeMessage]
  excludeErrorLogs := by rw [options, List.map_append, collects.excludeLog]
  verbosity := collects.verbosity_eq notBoth base
  color := by
    rw [options, Bool.and_eq_true, ← collects.noColor]
    simp

end Arguments

theorem optionsFor_eq {arguments : Arguments} {items : List Item}
    (collects : arguments.Collects items) (files : FileSystem) :
    (∀ problem, baseOptions files items = .error problem →
      ∃ failure, optionsFor files arguments = .error failure) ∧
    ∀ base, baseOptions files items = .ok base →
      optionsFor files arguments = .ok (arguments.options base) := by
  have named := collects.config
  rw [baseOptions, optionsFor]
  cases config : arguments.config with
  | none =>
      rw [config] at named
      rw [← named]
      refine ⟨?_, ?_⟩
      · intro problem failed
        cases failed
      · intro base loaded
        cases loaded
        rfl
  | some path =>
      rw [config] at named
      rw [← named]
      simp only [Option.toList_some, List.map_cons, List.map_nil, String.toList_ofList]
      refine ⟨?_, ?_⟩
      · intro problem failed
        rw [failed]
        exact ⟨_, rfl⟩
      · intro base loaded
        rw [loaded]

/-- Whether a run has printed the report of a session, and has ended well if and only if there is
nothing to report. -/
structure RunResult.Reports (result : RunResult) (session : Session) : Prop where
  prints : (session.printReport {}).1 = some ⟨result.stdout, none⟩
  stdout : result.stdout =
    Report.text session.errors session.configuration.edition session.reportSettings
  endsWell : result.exitCode = 0 ↔ session.errors = []
  endsBadly : session.errors ≠ [] → result.exitCode = 1

theorem run_of_read {words : List (List Char)} {arguments : Arguments}
    (accepted : Arguments.read words = .ok arguments) (files : FileSystem) (schedule : Schedule)
    (directives : Option (List Char)) :
    run files schedule directives words =
      (course files schedule arguments).map
        (Course.result · (thresholdFor arguments directives)) := by
  simp only [run, accepted]
  cases course files schedule arguments <;> rfl

theorem course_of_options {files : FileSystem} {arguments : Arguments} {options : Options}
    {folder : List Char} (named : arguments.folder = some folder)
    (isOptions : optionsFor files arguments = .ok options) (schedule : Schedule) :
    course files schedule arguments =
      (Session.ofFolder files schedule options folder).map Course.ofOpened := by
  simp only [course, isOptions, named, Option.getD_some]
  cases Session.ofFolder files schedule options folder <;> rfl

theorem Course.reports_of_opened {opened : Logged (Except Problem Session)} {session : Session}
    (isSession : opened.value = .ok session) (threshold : Nat) :
    ((Course.ofOpened opened).result threshold).Reports session := by
  have printed : session.printReport {} =
      (some ⟨Report.text session.errors session.configuration.edition session.reportSettings,
        none⟩, Report.verdict session.errors session.configuration.edition) :=
    Report.print_unlimited _ _ _
  simp only [Course.ofOpened, isSession, printed, Course.result]
  cases verdict : Report.verdict session.errors session.configuration.edition with
  | none =>
      have noErrors := Report.verdict_eq_none_iff.mp verdict
      exact ⟨by rw [printed]; rfl, rfl, by simp [noErrors], fun retained => absurd noErrors retained⟩
  | some problem =>
      have retained : session.errors ≠ [] := by
        intro noErrors
        rw [Report.verdict_eq_none_iff.mpr noErrors] at verdict
        cases verdict
      exact ⟨by rw [printed]; rfl, rfl, by simp [retained], fun _ => rfl⟩

/-- A script that `es5` cannot read, and a file of options that ask for a later edition. -/
def laterEdition : FileSystem where
  top := .folder [("dist".toList, .folder [("let.js".toList, .file (Text.Utf8.encode
      "let a".toList))]),
    ("c.json".toList, .file (Text.Utf8.encode
      "\x7b\"ecmaVersion\":2015,\"exclude\":\"a\",\"verbosity\":\"verbose\"\x7d".toList))]

/-- Words that override the edition and how much is reported, and exclude one more source. -/
def overriding : List (List Char) :=
  ["--config=c.json", "-q", "--exclude", "b", "--ecma-version=es5", "dist"].map String.toList

def overridingItems : List Item :=
  [.value .config "c.json".toList, .flag .quiet, .value .exclude "b".toList,
    .value .edition "es5".toList, .folder "dist".toList]

theorem says_overriding : Says overriding overridingItems := by
  refine @Says.joined "config".toList _ _ _ _ (by decide) rfl ?_
  refine @Says.letters _ [.quiet] _ _ (by decide) rfl ?_
  refine @Says.apart "exclude".toList _ _ _ _ (by decide) rfl rfl ?_
  refine @Says.joined "ecma-version".toList _ _ _ _ (by decide) rfl ?_
  exact .folder rfl .nil

end CommandLine

end EditionGuard
