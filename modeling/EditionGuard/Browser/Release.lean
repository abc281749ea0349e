/-!
# Release numbers

The version number of a browser is the binary64 number next to a decimal. It is kept as a
multiple of the least such number, which they all are, so that releases compare as natural
numbers. The numbers that binary64 is too small for are kept all the same.
-/

namespace EditionGuard.Browser

/-- The natural number next to a quotient, and of two the even one. -/
def roundToEven (numerator denominator : Nat) : Nat :=
  let below := numerator / denominator
  let left := numerator % denominator
  if 2 * left < denominator ∨ (2 * left = denominator ∧ below % 2 = 0) then below
  else below + 1

/-- The multiple of a power of two next to a quotient that has at most 53 binary digits. -/
def roundToGrid (numerator denominator : Nat) : Nat :=
  let spacing := Nat.pow 2 ((numerator / denominator).log2 - 52)
  roundToEven numerator (denominator * spacing) * spacing

/-- A release, by its number in units of the least binary64 number. -/
structure Release where
  units : Nat
deriving DecidableEq, Repr, Inhabited

namespace Release

def one : Nat := Nat.pow 2 1074

/-- The release of a decimal number that is written with some places behind the point. -/
def ofDecimal (digits places : Nat) : Release :=
  ⟨roundToGrid (digits * one) (Nat.pow 10 places)⟩

def major (number : Nat) : Release := ofDecimal number 0

instance : LE Release := ⟨fun left right => left.units ≤ right.units⟩

instance : LT Release := ⟨fun left right => left.units < right.units⟩

instance (left right : Release) : Decidable (left ≤ right) :=
  inferInstanceAs (Decidable (left.units ≤ right.units))

instance (left right : Release) : Decidable (left < right) :=
  inferInstanceAs (Decidable (left.units < right.units))

theorem le_iff_units_le {left right : Release} : left ≤ right ↔ left.units ≤ right.units :=
  Iff.rfl

def earlier (left right : Release) : Release := if left ≤ right then left else right

def nextMajor (release : Release) : Release := ⟨(release.units / one + 1) * one⟩

end Release

end EditionGuard.Browser
