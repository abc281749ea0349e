import EditionGuard.Pattern.CharSet

/-!
# Regular expressions and what they match

An expression takes sets of places in a text to the places where its matches from there can
end, so that the time it takes does not depend on how it can be taken apart.
-/

namespace EditionGuard.Pattern

open EditionGuard.Text

/-- A condition on a place between two characters. -/
inductive Look where
  | textStart
  | textEnd
  | lineStart
  | lineEnd
  /-- The start of a line that may end in a carriage return and a line feed. -/
  | returnLineStart
  | returnLineEnd
  | wordBoundary (ascii : Bool)
  | noWordBoundary (ascii : Bool)
  | wordStart (ascii : Bool)
  | wordEnd (ascii : Bool)
  /-- No word before. -/
  | wordStartHalf (ascii : Bool)
  /-- No word behind. -/
  | wordEndHalf (ascii : Bool)
deriving DecidableEq, Repr, Inhabited

inductive Regex where
  | empty
  | set (chars : CharSet)
  | look (condition : Look)
  | concat (left right : Regex)
  | alternate (left right : Regex)
  /-- At least so many times, and at most so many if that is limited. -/
  | repeat (body : Regex) (least : Nat) (most : Option Nat)
deriving DecidableEq, Repr, Inhabited

def isWord (ascii : Bool) : Option Char → Bool
  | none => false
  | some char => if ascii then char.isAlphanum || char == '_' else Unicode.isWord char.toNat

def Look.holds (before after : Option Char) : Look → Bool
  | .textStart => before.isNone
  | .textEnd => after.isNone
  | .lineStart => before.isNone || before == some '\n'
  | .lineEnd => after.isNone || after == some '\n'
  | .returnLineStart =>
    before.isNone || before == some '\n' || (before == some '\r' && after != some '\n')
  | .returnLineEnd =>
    after.isNone || after == some '\r' || (after == some '\n' && before != some '\r')
  | .wordBoundary ascii => isWord ascii before != isWord ascii after
  | .noWordBoundary ascii => isWord ascii before == isWord ascii after
  | .wordStart ascii => !isWord ascii before && isWord ascii after
  | .wordEnd ascii => isWord ascii before && !isWord ascii after
  | .wordStartHalf ascii => !isWord ascii before
  | .wordEndHalf ascii => !isWord ascii after

/-- The places of both lists, each once. -/
def merge (left right : List Nat) : List Nat :=
  left ++ right.filter fun place => !left.contains place

/-- Applies a step so many times, as long as there are places. -/
def iterate (step : List Nat → List Nat) : Nat → List Nat → List Nat
  | 0, places => places
  | count + 1, places => if places.isEmpty then [] else iterate step count (step places)

/-- All places that are reached by applying a step at most so many times. `fresh` are those
that have been reached last. -/
def reach (step : List Nat → List Nat) : Nat → List Nat → List Nat → List Nat
  | 0, _, reached => reached
  | count + 1, fresh, reached =>
    let next := (step fresh).filter fun place => !reached.contains place
    if next.isEmpty then reached else reach step count next (reached ++ next)

/-- The places where matches end that begin at the given places. Beyond the length of the
text, repeating reaches nothing new. -/
def Regex.ends (text : Array Char) : Regex → List Nat → List Nat
  | .empty, places => places
  | .set chars, places =>
    places.filterMap fun place =>
      match text[place]? with
      | some char => if chars.contains char.toNat then some (place + 1) else none
      | none => none
  | .look condition, places =>
    places.filter fun place =>
      condition.holds (if place = 0 then none else text[place - 1]?) text[place]?
  | .concat left right, places => right.ends text (left.ends text places)
  | .alternate left right, places => merge (left.ends text places) (right.ends text places)
  | .repeat body least most, places =>
    let start := iterate (body.ends text) least places
    let more := match most with
      | some most => min (most - least) (text.size + 1)
      | none => text.size + 1
    reach (body.ends text) more start start

def Regex.occursIn (regex : Regex) (text : List Char) : Bool :=
  !(regex.ends text.toArray (List.range (text.length + 1))).isEmpty

/-- The number of places of an expression with its repetitions written out. -/
def Regex.size : Regex → Nat
  | .empty => 0
  | .set chars => chars.weight
  | .look _ => 1
  | .concat left right | .alternate left right => left.size + right.size
  | .repeat body least most => body.size * max 1 (most.getD (least + 1))

end EditionGuard.Pattern
