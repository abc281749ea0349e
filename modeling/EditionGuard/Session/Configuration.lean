import EditionGuard.FileKind
import EditionGuard.Markup.InlineScript
import EditionGuard.Options
import EditionGuard.Session.Finding
import EditionGuard.Target

/-!
# Configurations

What stays the same throughout a session, and what a single check finds under it.
-/

namespace EditionGuard

/-- What a check goes by. -/
structure Configuration where
  edition : Edition
  view : View := {}
  exclude : Exclusion := {}
  excludeOutput : Exclusion := {}
  excludeMessage : Exclusion := {}
  excludeFields : List Report.Field := []
  verbosity : Report.Verbosity := .normal

def Options.edition (options : Options) : Except Problem Edition :=
  match options.ecmaVersion, options.targets with
  | some edition, _ => .ok edition
  | none, some targets => Target.resolveAll targets
  | none, none => .error .missingTarget

structure CheckOutcome where
  counted : Bool
  result : Except Problem (List Incompatibility)
  events : List LogEvent := []

def CheckOutcome.problem? (outcome : CheckOutcome) : Option Problem :=
  match outcome.result with
  | .ok _ => none
  | .error problem => some problem

namespace Configuration

/-- The configuration that options ask for. The project lies in a given folder unless they
name another. -/
def ofOptions (workingDirectory : List Char) (options : Options) :
    Logged (Except Problem Configuration) :=
  match options.edition with
  | .error problem => { value := .error problem }
  | .ok edition =>
    { value := do
        let exclude ← Exclusion.ofPatterns options.exclude
        let excludeOutput ← Exclusion.ofPatterns options.excludeOutput
        let excludeMessage ← Exclusion.ofPatterns options.excludeErrorMessage
        return {
          edition, exclude, excludeOutput, excludeMessage
          view :=
            ⟨(options.rootPath.map String.toList).getD workingDirectory, options.color⟩
          excludeFields := options.excludeErrorLogs
          verbosity := options.verbosity }
      events := [.start edition] }

/-- What is found in a piece of code of the file at a path. -/
def findings (configuration : Configuration) (files : FileSystem) (path code : List Char) :
    Except Overflow (Logged (List Incompatibility)) :=
  match Gate.check code configuration.edition (Script.Goal.ofPath path) with
  | none => .ok { value := [] }
  | some failure => do
    let finding ← Incompatibility.ofFailure files configuration.view configuration.exclude
      configuration.excludeMessage ⟨path, code⟩ failure
    return { value := finding.value.toList, events := finding.events }

/-- What is found in several pieces of code of one file, in order. -/
def allFindings (configuration : Configuration) (files : FileSystem) (path : List Char)
    (pieces : List (List Char)) : Except Overflow (Logged (List Incompatibility)) := do
  let found ← pieces.mapM (configuration.findings files path)
  return { value := found.flatMap (·.value), events := found.flatMap (·.events) }

def pieces (configuration : Configuration) (path text : List Char) : List (List Char) :=
  if FileKind.isPage path then
    if configuration.exclude.excludes path then [] else Markup.inlineScripts text
  else [text]

def outcome (counted : Bool) (path : List Char) (found : Logged (List Incompatibility)) :
    CheckOutcome where
  counted := counted
  result := .ok found.value
  events := found.events ++
    if found.value.isEmpty then []
    else [.findings (String.ofList path) found.value.length]

def checkCode (configuration : Configuration) (files : FileSystem) (path code : List Char) :
    Except Overflow CheckOutcome := do
  return outcome false path (← configuration.findings files path code)

/-- Checks the file at a path. Files of other kinds than pages and scripts are not read. -/
def checkFile (configuration : Configuration) (files : FileSystem) (path : List Char) :
    Except Overflow CheckOutcome :=
  if FileKind.isChecked path then
    match files.readText path with
    | .error fault =>
      .ok { counted := true, result := .error (.unreadable (String.ofList path) fault) }
    | .ok text => do
      let found ← configuration.allFindings files path (configuration.pieces path text)
      return outcome true path found
  else .ok { counted := false, result := .ok [], events := [.skipped (String.ofList path)] }

def check (configuration : Configuration) (files : FileSystem) (path : List Char)
    (code : Option (List Char)) : Except Overflow CheckOutcome :=
  match code with
  | some code => configuration.checkCode files path code
  | none => configuration.checkFile files path

end Configuration

end EditionGuard
