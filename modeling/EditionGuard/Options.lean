import EditionGuard.Exclusion
import EditionGuard.FileSystem.Basic
import EditionGuard.Json.Reader
import EditionGuard.Json.Record
import EditionGuard.Report.Print

/-!
# Options

What a user may wish for a check, as a JSON record or its equal.
-/

namespace EditionGuard

structure Options where
  targets : Option (List String) := none
  ecmaVersion : Option Edition := none
  exclude : List String := []
  excludeOutput : List String := []
  excludeErrorMessage : List String := []
  excludeErrorLogs : List Report.Field := []
  rootPath : Option String := none
  verbosity : Report.Verbosity := .normal
  color : Bool := false
deriving DecidableEq, Repr, Inhabited

open Json.Value

/-- The edition that a JSON value names: a number of 32 bits or a text. -/
def Edition.ofJson? (value : Json.Value) : Option Edition :=
  match value with
  | .number _ => value.word?.bind Edition.ofNumber?
  | _ => value.string?.bind Edition.ofText?

namespace Options

def patterns? : Json.Value → Option (List String)
  | .null => some []
  | .text chars => chars.map fun chars => [String.ofList chars]
  | value => value.items? string?

def names : List String :=
  ["targets", "ecmaVersion", "exclude", "excludeOutput", "excludeErrorMessage",
    "excludeErrorLogs", "rootPath", "verbosity", "color"]

/-- The options of a JSON value; nothing if it holds what it should not. -/
def ofJson? (value : Json.Value) : Option Options := do
  match ← value.fields? (names.map ([·])) with
  | [targets, version, exclude, output, message, logs, root, verbosity, color] =>
    return {
      targets := ← optional? (items? string?) targets
      ecmaVersion := ← optional? Edition.ofJson? version
      exclude := ← orElse? [] patterns? exclude
      excludeOutput := ← orElse? [] patterns? output
      excludeErrorMessage := ← orElse? [] patterns? message
      excludeErrorLogs := ← orElse? [] (items? (keyed? Report.Field.ofKey?)) logs
      rootPath := ← optional? string? root
      verbosity := ← orElse? .normal (keyed? Report.Verbosity.ofKey?) verbosity
      color := ← orElse? false bool? color }
  | _ => none

def ofJsonText (text : List Char) : Except Problem Options :=
  match (Json.ofText? text).bind ofJson? with
  | some options => .ok options
  | none => .error .invalidOptions

def ofFile (files : FileSystem) (path : List Char) : Except Problem Options :=
  match files.readText path with
  | .ok json => ofJsonText json
  | .error fault => .error (.unreadable (String.ofList path) fault)

end Options

end EditionGuard
