import EditionGuard.Text.Paint
import EditionGuard.Text.Position

/-!
# Incompatibilities

What a check finds: code that does not fit the edition, with the place where its author
finds it and, when that was found through a source map, the place in the output.
-/

namespace EditionGuard

structure FileLocation where
  path : String
  line : Nat
  column : Nat
deriving DecidableEq, Repr, Inhabited

def FileLocation.display (location : FileLocation) : List Char :=
  location.path.toList ++ ':' :: Text.decimal location.line ++
    ':' :: Text.decimal location.column

/-- Where a finding is shown to the author. -/
structure SourceLocation where
  path : String
  line : Nat
  column : Nat
  absolutePath : String
  code : String
deriving DecidableEq, Repr, Inhabited

def SourceLocation.location (source : SourceLocation) : FileLocation :=
  ⟨source.path, source.line, source.column⟩

/-- A place in the code where the edition is not enough. -/
structure Incompatibility where
  message : String
  source : SourceLocation
  /-- The place in the output, if the source was found through a map. -/
  output : Option FileLocation := none
deriving DecidableEq, Repr, Inhabited

def Incompatibility.display (error : Incompatibility) : List Char :=
  error.message.toList ++ " (".toList ++ error.source.location.display ++ [')']

end EditionGuard
