import EditionGuard.Word

/-!
# JSON values

Values as they are written. Records keep their entries in order, with keys that may repeat.
A text whose escapes or bytes stand for no characters has none, so that what nobody asks for
may hold anything.
-/

namespace EditionGuard.Json

/-- A number by its decimal digits: `digits` times ten to the power of `exponent`. -/
structure Number where
  negative : Bool
  digits : Nat
  exponent : Int
  /-- Whether it is written without fraction and exponent. -/
  whole : Bool
deriving DecidableEq, Repr, Inhabited

inductive Value where
  | null
  | bool (value : Bool)
  | number (value : Number)
  | text (chars : Option (List Char))
  | list (items : List Value)
  | record (entries : List (Option (List Char) × Value))
deriving Repr, Inhabited

/-- The least number that binary64 has no finite neighbour for. -/
def Number.limit : Nat := Nat.pow 2 1024 - Nat.pow 2 970

/-- Whether a number is near a finite binary64 number. -/
def Number.isFinite (number : Number) : Bool :=
  let length : Int := (Nat.toDigits 10 number.digits).length
  if number.digits = 0 ∨ number.exponent + length ≤ 308 then true
  else if 310 ≤ number.exponent + length then false
  else if 0 ≤ number.exponent then
    number.digits * Nat.pow 10 number.exponent.toNat < Number.limit
  else number.digits < Number.limit * Nat.pow 10 (-number.exponent).toNat

def Number.natural? (number : Number) : Option Nat :=
  if number.whole && !number.negative && number.digits < Word.count64 then some number.digits
  else none

mutual

/-- Whether a value can be taken up whole: its texts have characters, its numbers are finite,
and it is not nested deeper than the given number. -/
def Value.isSound (depth : Nat) : Value → Bool
  | .null | .bool _ => true
  | .number value => value.isFinite
  | .text chars => chars.isSome
  | .list items =>
    match depth with
    | 0 => false
    | depth + 1 => Value.areSound depth items
  | .record entries =>
    match depth with
    | 0 => false
    | depth + 1 => Value.entriesSound depth entries

/-- Whether all items of a list can be taken up whole. -/
def Value.areSound (depth : Nat) : List Value → Bool
  | [] => true
  | item :: rest => item.isSound depth && Value.areSound depth rest

/-- Whether all keys and values of a record can be taken up whole. -/
def Value.entriesSound (depth : Nat) : List (Option (List Char) × Value) → Bool
  | [] => true
  | (key, value) :: rest =>
    key.isSome && value.isSound depth && Value.entriesSound depth rest

end

end EditionGuard.Json
