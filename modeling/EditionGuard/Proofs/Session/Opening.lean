import EditionGuard.Proofs.Except
import EditionGuard.Session.Emitted

/-!
# Opening sessions

A session opens exactly if its options name an edition and all their patterns can be read.  It
then goes by these options, has looked at no file, and holds no error.
-/

namespace EditionGuard

/-- Whether a configuration is what options ask for, field by field. -/
structure Configuration.Follows (configuration : Configuration) (workingDirectory : List Char)
    (options : Options) : Prop where
  edition : options.edition = .ok configuration.edition
  exclude : Exclusion.ofPatterns options.exclude = .ok configuration.exclude
  excludeOutput : Exclusion.ofPatterns options.excludeOutput = .ok configuration.excludeOutput
  excludeMessage :
    Exclusion.ofPatterns options.excludeErrorMessage = .ok configuration.excludeMessage
  root : configuration.view.root =
    (options.rootPath.map String.toList).getD workingDirectory
  colour : configuration.view.colour = options.color
  excludeFields : configuration.excludeFields = options.excludeErrorLogs
  verbosity : configuration.verbosity = options.verbosity

theorem Configuration.ofOptions_eq_ok_iff {workingDirectory : List Char} {options : Options}
    {configuration : Configuration} :
    (Configuration.ofOptions workingDirectory options).value = .ok configuration ↔
      configuration.Follows workingDirectory options := by
  rw [ofOptions]
  constructor
  · intro opens
    cases named : options.edition with
    | error problem =>
        rw [named] at opens
        cases opens
    | ok edition =>
        rw [named] at opens
        obtain ⟨exclude, sources, opens⟩ := exists_of_bind_eq_ok opens
        obtain ⟨excludeOutput, outputs, opens⟩ := exists_of_bind_eq_ok opens
        obtain ⟨excludeMessage, messages, opens⟩ := exists_of_bind_eq_ok opens
        cases opens
        exact ⟨named, sources, outputs, messages, rfl, rfl, rfl, rfl⟩
  · intro follows
    rw [follows.edition]
    simp only [follows.exclude, follows.excludeOutput, follows.excludeMessage,
      ← follows.root, ← follows.colour, ← follows.excludeFields, ← follows.verbosity]
    rfl

theorem Session.ofOptions_eq_ok_iff {workingDirectory : List Char} {options : Options}
    {session : Session} :
    (Session.ofOptions workingDirectory options).value = .ok session ↔
      ∃ configuration : Configuration, configuration.Follows workingDirectory options ∧
        session = { configuration } := by
  simp only [← Configuration.ofOptions_eq_ok_iff, ofOptions]
  cases (Configuration.ofOptions workingDirectory options).value with
  | error problem => simp [Except.map]
  | ok configuration => simp [Except.map, eq_comm]

end EditionGuard
