import EditionGuard.Text.Unicode.Folding
import EditionGuard.Text.Unicode.Property

/-!
# Sets of characters

The sets that a pattern asks a character to be in, as they are built from ranges and
properties.
-/

namespace EditionGuard.Pattern

open EditionGuard.Text

/-- A set of characters, as it is built. -/
inductive CharSet where
  | empty
  | range (first last : Nat)
  | property (named : Unicode.Property)
  /-- The characters of words. -/
  | word
  /-- The set with everything that differs from a member in case alone. -/
  | folded (set : CharSet)
  /-- The same for the letters `A` to `Z` only. -/
  | foldedAscii (set : CharSet)
  | complement (set : CharSet)
  | union (left right : CharSet)
  | intersection (left right : CharSet)
  | difference (left right : CharSet)
  | symmetricDifference (left right : CharSet)
deriving DecidableEq, Repr, Inhabited

namespace CharSet

/-- The letter in the other case. -/
def otherCase (point : Nat) : Nat :=
  if 0x41 ≤ point ∧ point ≤ 0x5A then point + 32
  else if 0x61 ≤ point ∧ point ≤ 0x7A then point - 32
  else point

def contains : CharSet → Nat → Bool
  | .empty, _ => false
  | .range first last, point => first ≤ point && point ≤ last
  | .property named, point => named.holds point
  | .word, point => Unicode.isWord point
  | .folded set, point => (Unicode.equivalents point).any set.contains
  | .foldedAscii set, point => set.contains point || set.contains (otherCase point)
  | .complement set, point => !set.contains point
  | .union left right, point => left.contains point || right.contains point
  | .intersection left right, point => left.contains point && right.contains point
  | .difference left right, point => left.contains point && !right.contains point
  | .symmetricDifference left right, point => left.contains point != right.contains point

def char (char : Char) : CharSet := .range char.toNat char.toNat

def ofRanges (ranges : List (Nat × Nat)) : CharSet :=
  ranges.foldr (fun (first, last) set => .union (.range first last) set) .empty

def named? (name : String) : Option CharSet :=
  match name with
  | "alnum" => some (ofRanges [(0x30, 0x39), (0x41, 0x5A), (0x61, 0x7A)])
  | "alpha" => some (ofRanges [(0x41, 0x5A), (0x61, 0x7A)])
  | "ascii" => some (ofRanges [(0, 0x7F)])
  | "blank" => some (ofRanges [(9, 9), (0x20, 0x20)])
  | "cntrl" => some (ofRanges [(0, 0x1F), (0x7F, 0x7F)])
  | "digit" => some (ofRanges [(0x30, 0x39)])
  | "graph" => some (ofRanges [(0x21, 0x7E)])
  | "lower" => some (ofRanges [(0x61, 0x7A)])
  | "print" => some (ofRanges [(0x20, 0x7E)])
  | "punct" => some (ofRanges [(0x21, 0x2F), (0x3A, 0x40), (0x5B, 0x60), (0x7B, 0x7E)])
  | "space" => some (ofRanges [(9, 13), (0x20, 0x20)])
  | "upper" => some (ofRanges [(0x41, 0x5A)])
  | "word" => some (ofRanges [(0x30, 0x39), (0x41, 0x5A), (0x5F, 0x5F), (0x61, 0x7A)])
  | "xdigit" => some (ofRanges [(0x30, 0x39), (0x41, 0x46), (0x61, 0x66)])
  | _ => none

/-- A bound for the number of places that a set takes in a pattern. -/
def weight : CharSet → Nat
  | .property _ | .word => 1500
  | .folded set | .foldedAscii set | .complement set => set.weight + 8
  | .union left right | .intersection left right | .difference left right
  | .symmetricDifference left right => left.weight + right.weight
  | .empty | .range _ _ => 1

end CharSet

end EditionGuard.Pattern
