import EditionGuard.Gate.Requirements

/-!
# The first violation

One walk over a tree keeps the requirement with the smallest offset among those that the
target does not meet; of several at one offset the first that was asked for stays.
-/

namespace EditionGuard.Gate

open EditionGuard.Script

/-- How far a walk has come: the number of functions around the current node, and the
first violation so far. -/
structure Walk where
  depth : Nat
  first : Option Requirement
deriving DecidableEq, Repr, Inhabited

/-- Takes note of a requirement that the target does not meet. -/
def Walk.require (target : Edition) (walk : Walk) (requirement : Requirement) : Walk :=
  if requirement.edition ≤ target then walk
  else match walk.first with
    | some earlier =>
      if earlier.offset ≤ requirement.offset then walk
      else { walk with first := some requirement }
    | none => { walk with first := some requirement }

def Walk.enter (walk : Walk) (construct : Construct) : Walk :=
  if isFunctionScope construct then { walk with depth := walk.depth + 1 } else walk

def Walk.leave (walk : Walk) (construct : Construct) : Walk :=
  if isFunctionScope construct then { walk with depth := walk.depth - 1 } else walk

mutual

def visit (code : List Char) (target : Edition) : Node → Walk → Walk
  | .mk construct span parts, walk =>
    let asked := (ownRequirements code walk.depth (.mk construct span parts)).foldl
      (Walk.require target) walk
    (visitAll code target parts (asked.enter construct)).leave construct

def visitAll (code : List Char) (target : Edition) : List Node → Walk → Walk
  | [], walk => walk
  | node :: rest, walk => visitAll code target rest (visit code target node walk)

end

/-- The first construct of a program that the target does not have. -/
def firstViolation (tree : Node) (code : List Char) (target : Edition) :
    Option Requirement :=
  if target = .latest then none else (visit code target tree ⟨0, none⟩).first

end EditionGuard.Gate
