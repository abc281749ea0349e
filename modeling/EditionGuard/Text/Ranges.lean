/-!
# Sets of characters given by their boundaries

A set of code points is written as the increasing list of the points where membership
changes: the first point is the first member, the second the first point after it, and so on.
-/

namespace EditionGuard.Text

/-- Whether a code point lies in the set with the given changes. -/
def inChanges : List Nat → Nat → Bool
  | [], _ => false
  | [first], point => first ≤ point
  | first :: next :: rest, point =>
    if point < first then false
    else if point < next then true
    else inChanges rest point

end EditionGuard.Text
