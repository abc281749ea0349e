/-!
# Digits

Numbers written in digits, the weightiest first. A digit of a base is read by a function
that has a value for the digits of the base and for no other character.
-/

namespace EditionGuard.Text

def decimalDigit? (char : Char) : Option Nat :=
  if char.isDigit then some (char.toNat - 48) else none

/-- The value of a hexadecimal digit; its letters may be of either case. -/
def hexDigit? (char : Char) : Option Nat :=
  if char.isDigit then some (char.toNat - 48)
  else if 'a' ≤ char ∧ char ≤ 'f' then some (char.toNat - 87)
  else if 'A' ≤ char ∧ char ≤ 'F' then some (char.toNat - 55)
  else none

def isHexDigit (char : Char) : Bool := (hexDigit? char).isSome

/-- The number that digits stand for behind what `value` stands for; nothing if a character
among them is no digit. -/
def numberFrom? (base : Nat) (digit? : Char → Option Nat) : Nat → List Char → Option Nat
  | value, [] => some value
  | value, char :: rest =>
    (digit? char).bind fun digit => numberFrom? base digit? (value * base + digit) rest

/-- The number of a text of decimal digits. The empty text is zero. -/
def decimal? (text : List Char) : Option Nat := numberFrom? 10 decimalDigit? 0 text

/-- The number of a text of hexadecimal digits. The empty text is zero. -/
def hexadecimal? (text : List Char) : Option Nat := numberFrom? 16 hexDigit? 0 text

@[simp] theorem numberFrom?_nil (base : Nat) (digit? : Char → Option Nat) (value : Nat) :
    numberFrom? base digit? value [] = some value := rfl

theorem isSome_numberFrom? (base : Nat) (digit? : Char → Option Nat) (value : Nat)
    (text : List Char) :
    (numberFrom? base digit? value text).isSome = text.all fun char => (digit? char).isSome := by
  induction text generalizing value with
  | nil => rfl
  | cons char rest ih => cases h : digit? char <;> simp [numberFrom?, h, ih]

theorem numberFrom?_append (base : Nat) (digit? : Char → Option Nat) (value : Nat)
    (front back : List Char) :
    numberFrom? base digit? value (front ++ back) =
      (numberFrom? base digit? value front).bind (numberFrom? base digit? · back) := by
  induction front generalizing value with
  | nil => rfl
  | cons char rest ih => cases h : digit? char <;> simp [numberFrom?, h, ih]

end EditionGuard.Text
