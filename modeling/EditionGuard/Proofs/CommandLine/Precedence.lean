import EditionGuard.Proofs.CommandLine.Run
import EditionGuard.Proofs.Session.Emitted

/-!
# Which edition a run goes by

An edition can be asked for in four places: by name or by targets, in the words of a run or in
its file of options.  The words go before the file for names and for targets alike, but a name
goes before targets wherever it stands.  So targets in the words override those of the file and
not its edition.
-/

namespace EditionGuard

theorem Options.edition_eq_ok_iff {options : Options} {edition : Edition} :
    options.edition = .ok edition ↔
      options.ecmaVersion = some edition ∨
        options.ecmaVersion = none ∧
          ∃ targets, options.targets = some targets ∧ Target.resolveAll targets = .ok edition := by
  rw [Options.edition]
  cases options.ecmaVersion with
  | some named => simp
  | none => cases options.targets <;> simp

theorem Session.configuration_of_ofFolder {files : FileSystem} {schedule : Schedule}
    {options : Options} {folder : List Char} {opened session : Session}
    (opens : (Session.ofOptions files.workingDirectory options).value = .ok opened)
    (checked : (Session.ofFolder files schedule options folder).map Logged.value =
      .ok (.ok session)) :
    session.configuration = opened.configuration := by
  rw [ofFolder_of_opens opens, map_map] at checked
  obtain ⟨later, isLater, value⟩ := exists_of_map_eq_ok checked
  obtain rfl := Except.ok.inj value
  exact (advances_checkAssets isLater).configuration

namespace CommandLine

/-- Whether an edition goes before all others that are asked for by the items of a run and by the
options of its file. -/
structure Prevails (items : List Item) (base : Options) (edition : Edition) : Prop where
  /-- An edition in the words counts whatever the file holds. -/
  named : ∀ text ∈ valuesOf .edition items, Edition.ofText? text = some edition
  /-- Without one the edition of the file counts, whatever targets are in the words. -/
  namedInFile : valuesOf .edition items = [] →
    ∀ other, base.ecmaVersion = some other → edition = other
  /-- Where nothing is named, targets in the words count whatever targets the file holds. -/
  targeted : valuesOf .edition items = [] → base.ecmaVersion = none →
    valuesOf .target items ≠ [] → Target.resolveAll (valuesOf .target items) = .ok edition
  targetedInFile : valuesOf .edition items = [] → base.ecmaVersion = none →
    valuesOf .target items = [] →
      ∃ targets, base.targets = some targets ∧ Target.resolveAll targets = .ok edition

namespace Arguments

variable {arguments : Arguments} {items : List Item}

theorem exists_folder_of_read {words : List (List Char)}
    (read : Arguments.read words = .ok arguments) :
    ∃ folder, arguments.folder = some folder := by
  obtain ⟨⟨items, said⟩, collected⟩ := collects_of_read read
  obtain ⟨collects, ⟨folder, isFolder⟩, _⟩ := collected items said
  exact ⟨folder, Option.toList_eq_singleton_iff.mp (collects.folder.trans isFolder)⟩

theorem Collects.edition_of_mem (collects : arguments.Collects items) {text : String}
    (said : text ∈ valuesOf .edition items) :
    ∃ edition, arguments.edition = some edition ∧ Edition.ofText? text = some edition := by
  have read : Edition.ofText? text ∈ (valuesOf .edition items).map Edition.ofText? :=
    List.mem_map_of_mem said
  rw [← collects.edition] at read
  obtain ⟨edition, given, isEdition⟩ := List.mem_map.mp read
  exact ⟨edition, Option.mem_toList.mp given, isEdition.symm⟩

theorem Collects.edition_eq_none (collects : arguments.Collects items)
    (unsaid : valuesOf .edition items = []) : arguments.edition = none := by
  rw [collects.edition_eq, unsaid]
  rfl

theorem Collects.prevails (collects : arguments.Collects items) {base : Options}
    {edition : Edition} (asked : (arguments.options base).edition = .ok edition) :
    Prevails items base edition := by
  have merged := Options.edition_eq_ok_iff.mp asked
  simp only [options] at merged
  constructor
  · intro text said
    obtain ⟨named, given, isNamed⟩ := collects.edition_of_mem said
    rw [given] at merged
    simp only [Option.some_or, Option.some.injEq, reduceCtorEq, false_and, or_false] at merged
    rw [isNamed, merged]
  · intro unsaid other inFile
    rw [collects.edition_eq_none unsaid, inFile] at merged
    rcases merged with sameEdition | ⟨noEdition, _⟩
    · exact (Option.some.inj sameEdition).symm
    · cases noEdition
  · intro unsaid notInFile targets
    rw [collects.edition_eq_none unsaid, notInFile, collects.targets] at merged
    simpa [targets] using merged
  · intro unsaid notInFile noTargets
    rw [collects.edition_eq_none unsaid, notInFile, collects.targets] at merged
    simpa [noTargets] using merged

end Arguments

theorem exists_run_of_opened {files : FileSystem} {schedule : Schedule}
    {directives : Option (List Char)} {words : List (List Char)} {arguments : Arguments}
    {options : Options} {session : Session}
    (accepted : Arguments.read words = .ok arguments)
    (merged : optionsFor files arguments = .ok options)
    (checked : (Session.ofFolder files schedule options (arguments.folder.getD [])).map
      Logged.value = .ok (.ok session)) :
    ∃ result, run files schedule directives words = .ok result ∧ result.Reports session := by
  obtain ⟨folder, named⟩ := Arguments.exists_folder_of_read accepted
  rw [named, Option.getD_some] at checked
  obtain ⟨opened, isOpened, value⟩ := exists_of_map_eq_ok checked
  rw [run_of_read accepted, course_of_options named merged, isOpened]
  exact ⟨_, rfl, Course.reports_of_opened value _⟩

/-- The edition of a run.  Of words that are accepted, the session that the run opens, and whose
report it prints unless it stops, goes by the edition that the words name; without one, by the
edition of the file of options; and only where neither names an edition, by the targets in the
words, or else by those of the file. -/
theorem run_edition (files : FileSystem) (schedule : Schedule)
    (directives : Option (List Char)) (words : List (List Char)) (arguments : Arguments)
    (accepted : Arguments.read words = .ok arguments) (options : Options)
    (merged : optionsFor files arguments = .ok options) (opened : Session)
    (opens : (Session.ofOptions files.workingDirectory options).value = .ok opened) :
    (∀ session, (Session.ofFolder files schedule options (arguments.folder.getD [])).map
        Logged.value = .ok (.ok session) →
      session.configuration = opened.configuration ∧
        ∃ result, run files schedule directives words = .ok result ∧ result.Reports session) ∧
      (∃ items, Says words items) ∧
      ∀ items, Says words items → ∃ base, baseOptions files items = .ok base ∧
        Prevails items base opened.configuration.edition := by
  obtain ⟨said, collected⟩ := Arguments.collects_of_read accepted
  refine ⟨?_, said, ?_⟩
  · intro session checked
    exact ⟨Session.configuration_of_ofFolder opens checked,
      exists_run_of_opened accepted merged checked⟩
  intro items itemsSaid
  obtain ⟨collects, _⟩ := collected items itemsSaid
  obtain ⟨unloaded, loaded⟩ := optionsFor_eq collects files
  obtain ⟨configuration, follows, rfl⟩ := Session.ofOptions_eq_ok_iff.mp opens
  cases isBase : baseOptions files items with
  | error problem =>
      obtain ⟨failure, ends⟩ := unloaded problem isBase
      rw [ends] at merged
      cases merged
  | ok base =>
      rw [loaded base isBase] at merged
      cases merged
      exact ⟨base, rfl, collects.prevails follows.edition⟩

/-- The edition in these words goes before the one in the file. -/
theorem run_edition_overriding :
    ∃ session result,
      (Session.ofFolder laterEdition .inTurn
        { ecmaVersion := some .es5, exclude := ["a", "b"], verbosity := .quiet }
        "dist".toList).map Logged.value = .ok (.ok session) ∧
      run laterEdition .inTurn none overriding = .ok result ∧ result.Reports session ∧
      baseOptions laterEdition overridingItems =
        .ok { ecmaVersion := some .es2015, exclude := ["a"], verbosity := .verbose } ∧
      session.configuration.edition = .es5 := by
  have opens : ((Session.ofOptions laterEdition.workingDirectory
      { ecmaVersion := some .es5, exclude := ["a", "b"], verbosity := .quiet }).value).toOption.map
        (·.filesChecked) = some 0 := by
    decide +kernel
  obtain ⟨opened, isOpened, _⟩ := exists_of_map_toOption_eq_some opens
  have shown : ((Session.ofFolder laterEdition .inTurn
      { ecmaVersion := some .es5, exclude := ["a", "b"], verbosity := .quiet }
      "dist".toList).map Logged.value).toOption.map
        (fun checked => checked.toOption.map (·.filesChecked)) = some (some 1) := by
    decide +kernel
  obtain ⟨checked, isChecked, hasSession⟩ := exists_of_map_toOption_eq_some shown
  obtain ⟨session, isSession, _⟩ := exists_of_map_toOption_eq_some hasSession
  rw [isSession] at isChecked
  obtain ⟨reported, _, prevails⟩ := run_edition laterEdition .inTurn none overriding
    { config := some "c.json".toList, quiet := 1, exclude := ["b"], edition := some .es5,
      folder := some "dist".toList } (by decide +kernel)
    { ecmaVersion := some .es5, exclude := ["a", "b"], verbosity := .quiet } (by decide +kernel)
    opened isOpened
  obtain ⟨sameConfiguration, result, isRun, reports⟩ := reported session isChecked
  obtain ⟨base, loaded, wins⟩ := prevails overridingItems says_overriding
  have named := wins.named "es5" (by decide)
  have isEdition : Edition.ofText? "es5" = some .es5 := by decide +kernel
  refine ⟨session, result, isChecked, isRun, reports, by decide +kernel, ?_⟩
  rw [sameConfiguration]
  exact Option.some.inj (named.symm.trans isEdition)

/-- Words that name targets older than the edition of the file. -/
def targeting : List (List Char) :=
  ["--config=c.json", "--target", "ie 11", "dist"].map String.toList

def targetingItems : List Item :=
  [.value .config "c.json".toList, .value .target "ie 11".toList, .folder "dist".toList]

/-- The targets in these words stand for `es5`, and the run goes by the edition of the file all
the same. -/
theorem run_edition_targets_passed_over :
    Says targeting targetingItems ∧ valuesOf .edition targetingItems = [] ∧
      valuesOf .target targetingItems = ["ie 11"] ∧
      Target.resolveAll ["ie 11"] = .ok .es5 ∧
      ∃ arguments options session result, Arguments.read targeting = .ok arguments ∧
        optionsFor laterEdition arguments = .ok options ∧
        (Session.ofFolder laterEdition .inTurn options (arguments.folder.getD [])).map
          Logged.value = .ok (.ok session) ∧
        run laterEdition .inTurn none targeting = .ok result ∧ result.Reports session ∧
        session.configuration.edition = .es2015 := by
  have said : Says targeting targetingItems := by
    refine @Says.joined "config".toList _ _ _ _ (by decide) rfl ?_
    refine @Says.apart "target".toList _ _ _ _ (by decide) rfl rfl ?_
    exact .folder rfl .nil
  refine ⟨said, rfl, rfl, by decide +kernel, ?_⟩
  let arguments : Arguments :=
    { config := some "c.json".toList, targets := ["ie 11"], folder := some "dist".toList }
  let options : Options :=
    { ecmaVersion := some .es2015, targets := some ["ie 11"], exclude := ["a"],
      verbosity := .verbose }
  have accepted : Arguments.read targeting = .ok arguments := by decide +kernel
  have merged : optionsFor laterEdition arguments = .ok options := by decide +kernel
  have shown : ((Session.ofFolder laterEdition .inTurn options "dist".toList).map
      Logged.value).toOption.map
        (fun checked => checked.toOption.map (·.configuration.edition)) =
          some (some .es2015) := by
    decide +kernel
  obtain ⟨checked, isChecked, hasSession⟩ := exists_of_map_toOption_eq_some shown
  obtain ⟨session, isSession, edition⟩ := exists_of_map_toOption_eq_some hasSession
  rw [isSession] at isChecked
  obtain ⟨result, isRun, reports⟩ := exists_run_of_opened accepted merged isChecked
  exact ⟨arguments, options, session, result, accepted, merged, isChecked, isRun, reports,
    edition⟩

end CommandLine

end EditionGuard
