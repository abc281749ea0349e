import EditionGuard.Gate.Violation
import EditionGuard.Script.Grammar.Program
import EditionGuard.Text.Position

/-!
# Verdicts

A source text passes an edition if it is a program and needs nothing that the edition lacks.
-/

namespace EditionGuard.Gate

open EditionGuard.Script

structure Failure where
  message : String
  byteOffset : Nat
  position : Text.Position
deriving DecidableEq, Repr, Inhabited

/-- A failure at the character boundary at or below an offset. A text that is read has fewer
than 2^32 bytes, so its places need no limit here. -/
def Failure.atOffset (code : List Char) (offset : Nat) (message : String) : Failure :=
  let boundary := Text.floorBoundary code offset
  ⟨message, boundary, .behind (Text.before code boundary)⟩

def failureOf (read : Except Diagnostic Node) (code : List Char) (target : Edition) :
    Option Failure :=
  match read with
  | .error diagnostic =>
    some (.atOffset code diagnostic.offset diagnostic.error.message)
  | .ok tree =>
    (firstViolation tree code target).map fun violation =>
      .atOffset code violation.offset violation.message

/-- The failure of a source text under an edition; nothing if it passes. -/
def check (code : List Char) (target : Edition) (goal : Goal) : Option Failure :=
  failureOf (Script.read goal code) code target

end EditionGuard.Gate
