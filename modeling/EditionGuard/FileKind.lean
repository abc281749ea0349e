import EditionGuard.Path
import EditionGuard.Script.Grammar.Program

/-!
# Kinds of files

What the ending of a path says about the code in the file.
-/

namespace EditionGuard

/-- How the code of a file is read. Unless its extension tells, the code itself does. -/
def Script.Goal.ofPath (path : List Char) : Script.Goal :=
  match Path.extension? path with
  | some extension =>
    if extension = "mjs".toList then .module
    else if extension = "cjs".toList then .script
    else .unambiguous
  | none => .unambiguous

namespace FileKind

def endsIn (endings : List String) (path : List Char) : Bool :=
  endings.any fun ending => ending.toList.isSuffixOf path

def isPage (path : List Char) : Bool := endsIn [".html"] path

def isScript (path : List Char) : Bool := endsIn [".js", ".mjs", ".cjs", ".jsx"] path

def isChecked (path : List Char) : Bool := isPage path || isScript path

end FileKind

end EditionGuard
