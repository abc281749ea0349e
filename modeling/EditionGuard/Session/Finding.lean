import EditionGuard.Exclusion
import EditionGuard.FileSystem.Basic
import EditionGuard.Log
import EditionGuard.SourceMap.Locate

/-!
# Findings

A failure of an output becomes a finding: shown in the source if a map leads there, and in
the output itself if not, unless its source or its message is excluded. If a map leads to a line
that has no number, there is neither.
-/

namespace EditionGuard

/-- A value, and what happened on the way to it. -/
structure Logged (α : Type) where
  value : α
  events : List LogEvent := []
deriving Repr

namespace OutputFile

/-- The source map beside an output, if there is one that can be used. -/
def map (files : FileSystem) (output : OutputFile) : Logged (Option SourceMap) :=
  match files.readBytes output.mapPath with
  | .error .notFound => { value := none }
  | .error fault =>
    { value := none
      events := [.unmapped (.unreadable (String.ofList output.mapPath) fault)] }
  | .ok bytes =>
    match SourceMap.read? bytes with
    | some map => { value := some map }
    | none => { value := none, events := [.unusableMap (String.ofList output.mapPath)] }

/-- The place in a source that the map beside an output gives for a failure. -/
def source? (files : FileSystem) (view : View) (output : OutputFile) (failure : Gate.Failure) :
    Except Overflow (Option SourceLocation) :=
  match (output.map files).value with
  | some map => map.locate output view failure
  | none => .ok none

def mappedEvent (output : OutputFile) (failure : Gate.Failure) (source : SourceLocation) :
    LogEvent :=
  let place : FileLocation :=
    ⟨String.ofList output.path, failure.position.line, failure.position.column⟩
  let origin : FileLocation := { source.location with path := source.absolutePath }
  .mapped (String.ofList place.display) (String.ofList origin.display)

end OutputFile

namespace Incompatibility

/-- The finding of a failure by the source that it comes from, if one is known. -/
def ofSource (output : OutputFile) (view : View) (failure : Gate.Failure) :
    Option SourceLocation → Incompatibility
  | some source =>
    ⟨failure.message, source,
      some ⟨(output.location view failure).path, failure.position.line,
        failure.position.column⟩⟩
  | none => ⟨failure.message, output.location view failure, none⟩

/-- The finding of a failure, before any exclusion. -/
def locate (files : FileSystem) (view : View) (output : OutputFile) (failure : Gate.Failure) :
    Except Overflow (Logged Incompatibility) := do
  let source? ← output.source? files view failure
  return {
    value := ofSource output view failure source?
    events := (output.map files).events ++ (source?.map (output.mappedEvent failure)).toList }

/-- The reason why a finding is left out, if it is. -/
def exclusion? (sources messages : Exclusion) (finding : Incompatibility) : Option LogEvent :=
  if sources.excludes finding.source.absolutePath.toList then
    some (.excludedSource finding.source.absolutePath)
  else if messages.excludes finding.message.toList then
    some (.excludedMessage finding.message)
  else none

/-- The finding of a failure, unless it is excluded. -/
def ofFailure (files : FileSystem) (view : View) (sources messages : Exclusion)
    (output : OutputFile) (failure : Gate.Failure) :
    Except Overflow (Logged (Option Incompatibility)) := do
  let located ← locate files view output failure
  match located.value.exclusion? sources messages with
  | some event => return { value := none, events := located.events ++ [event] }
  | none => return { value := some located.value, events := located.events }

end Incompatibility

end EditionGuard
