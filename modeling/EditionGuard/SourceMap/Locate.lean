import EditionGuard.Gate.Verdict
import EditionGuard.Report.Incompatibility
import EditionGuard.SourceMap.Reader
import EditionGuard.SourceMap.SourceName
import EditionGuard.Text.Excerpt
import EditionGuard.Word

/-!
# Locating sources

From a failure in an output to the place that its author knows.
-/

namespace EditionGuard

/-- An output that has been checked. -/
structure OutputFile where
  path : List Char
  code : List Char
deriving DecidableEq, Repr, Inhabited

/-- What places are shown with: the folder of the project, and whether in colour. -/
structure View where
  root : List Char := []
  colour : Bool := false
deriving DecidableEq, Repr, Inhabited

namespace OutputFile

def mapPath (output : OutputFile) : List Char := output.path ++ ".map".toList

/-- The line of an output that holds a failure, under it a caret. -/
def excerpt (output : OutputFile) (view : View) (failure : Gate.Failure) : List Char :=
  Text.pointer output.code failure.byteOffset view.colour

def location (output : OutputFile) (view : View) (failure : Gate.Failure) : SourceLocation where
  path := String.ofList (Path.display output.path view.root)
  line := failure.position.line
  column := failure.position.column
  absolutePath := String.ofList output.path
  code := String.ofList (output.excerpt view failure)

end OutputFile

namespace SourceMap

def origin? (map : SourceMap) (line column : Nat) : Option (Token × Nat × List Char) := do
  let token ← map.lookup line column
  let index ← token.source
  let name ← map.source? index
  return (token, index, name)

/-- The place in a source that a failure in an output comes from, if there is one. The source
is shown if the map holds it, and the output otherwise. A map can lead to the last line of
32 bits counted from zero, which has no number when counted from one. -/
def locate (map : SourceMap) (output : OutputFile) (view : View) (failure : Gate.Failure) :
    Except Overflow (Option SourceLocation) :=
  match map.origin? (failure.position.line - 1) failure.position.column with
  | none => .ok none
  | some (token, index, name) => do
    let path := (SourceName.ofText name).path ((Path.parent? output.mapPath).getD []) view.root
    let code := match map.content? index with
      | some content => Text.frame (Text.lines content) token.sourceLine view.colour
      | none => output.excerpt view failure
    let line ← Word.nextLine token.sourceLine
    return some {
      path := String.ofList (Path.display path view.root)
      line
      column := token.columnFor failure.position.column
      absolutePath := String.ofList path
      code := String.ofList code }

end SourceMap

end EditionGuard
