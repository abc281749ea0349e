import EditionGuard.Path
import EditionGuard.Text.Blank

/-!
# Names of sources

How a source map names its sources: by a path from the folder of the map, by an absolute
path, or by an address of a scheme, which stands for a resource of the project.
-/

namespace EditionGuard.SourceMap

/-- What the name of a source stands for. -/
inductive SourceName where
  /-- A resource of the project. -/
  | synthetic (resource : List Char)
  | absolute (path : List Char)
  /-- A path from the folder of the map. -/
  | relative (path : List Char)
deriving DecidableEq, Repr, Inhabited

namespace SourceName

def isSchemeChar (char : Char) : Bool :=
  char.isAlphanum || char == '+' || char == '.' || char == '-'

/-- The scheme of a name and what follows its two slashes, which must lie on one line. -/
def scheme? (name : List Char) : Option (List Char × List Char) :=
  match name with
  | [] => none
  | first :: _ =>
    let scheme := name.takeWhile isSchemeChar
    match name.dropWhile isSchemeChar with
    | ':' :: '/' :: '/' :: rest =>
      if first.isAlpha && !rest.contains '\n' then some (scheme, rest) else none
    | _ => none

/-- The text behind the first slash, unless there is none or only dots stand before it. -/
def withoutNamespace (text : List Char) : List Char :=
  let leading := text.takeWhile (· != '/')
  match text.dropWhile (· != '/') with
  | _ :: rest => if leading = ['.'] ∨ leading = ['.', '.'] then text else rest
  | [] => text

/-- The text without all the current folders that it begins with. -/
def withoutDots : List Char → List Char
  | '.' :: '/' :: rest => withoutDots rest
  | text => text

/-- What a name stands for. Of an address, the namespace and the query do not matter. -/
def ofText (name : List Char) : SourceName :=
  match scheme? name with
  | none => if Path.isAbsolute name then .absolute name else .relative name
  | some (scheme, rest) =>
    if Text.lowerAscii scheme = "file".toList then .absolute rest
    else .synthetic (withoutDots (withoutNamespace (rest.takeWhile (· != '?'))))

/-- The path of a source whose map lies in a folder, in a project. -/
def path (folder root : List Char) : SourceName → List Char
  | .synthetic resource => Path.clean (Path.join root resource)
  | .absolute path => path
  | .relative path => Path.clean (Path.join folder path)

end SourceName

end EditionGuard.SourceMap
