import EditionGuard.Problem
import EditionGuard.Text.Paint

/-!
# Logs

What is told about the course of a check besides its report.
-/

namespace EditionGuard

inductive LogLevel where
  | error
  | warning
  | information
  | debugging
  | tracing
deriving DecidableEq, Repr, Inhabited

namespace LogLevel

def all : List LogLevel := [.error, .warning, .information, .debugging, .tracing]

def key : LogLevel → String
  | .error => "error"
  | .warning => "warn"
  | .information => "info"
  | .debugging => "debug"
  | .tracing => "trace"

/-- The place of a level among all, counted from one. -/
def rank (level : LogLevel) : Nat := all.idxOf level + 1

end LogLevel

inductive LogEvent where
  | start (edition : Edition)
  | assets (count : Nat)
  | findings (path : String) (count : Nat)
  | skipped (path : String)
  | excludedOutput (path : String)
  | excludedSource (path : String)
  | excludedMessage (message : String)
  | unusableMap (path : String)
  | mapped (output source : String)
  /-- An asset could not be checked. -/
  | failed (problem : Problem)
  /-- A map could not be read. -/
  | unmapped (problem : Problem)
  /-- A folder could not be walked through. -/
  | unwalkable (path : String) (fault : ReadFault)
deriving DecidableEq, Repr, Inhabited

namespace LogEvent

/-- The level of an event: what could not be read is a warning. -/
def level : LogEvent → LogLevel
  | .failed _ | .unmapped _ | .unwalkable _ _ => .warning
  | _ => .debugging

def message : LogEvent → String
  | .start edition => s!"checking syntax against {edition.display}"
  | .assets count => s!"checking {count} emitted file(s)"
  | .findings path count => s!"{path}: {count} error(s)"
  | .skipped path => s!"skipping {path}"
  | .excludedOutput path => s!"excluded output: {path}"
  | .excludedSource path => s!"excluded by source path: {path}"
  | .excludedMessage message => s!"excluded by message: {message}"
  | .unusableMap path => s!"cannot decode {path}"
  | .mapped output source => s!"mapped {output} to {source}"
  | .failed problem => problem.message
  | .unmapped problem => s!"{problem.message}; reporting the output location instead"
  | .unwalkable path fault =>
    s!"skipping unreadable entry: IO error for operation on {path}: {fault.message}"

def line (event : LogEvent) : List Char :=
  Text.alignRight 5 (event.level.key.toUpper.toList) ++ ' ' :: event.message.toList

end LogEvent

end EditionGuard
