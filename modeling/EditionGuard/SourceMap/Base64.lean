import EditionGuard.Word

/-!
# Numbers in base 64

The mappings of a source map are numbers of any size, written with the digits of base 64, the
low digits first. A digit holds five bits and says whether another follows; the lowest bit of
a number is its sign.
-/

namespace EditionGuard.SourceMap

def digit? (char : Char) : Option Nat :=
  let point := char.toNat
  if 'A' ≤ char ∧ char ≤ 'Z' then some (point - 65)
  else if 'a' ≤ char ∧ char ≤ 'z' then some (point - 97 + 26)
  else if '0' ≤ char ∧ char ≤ '9' then some (point - 48 + 52)
  else if char = '+' then some 62
  else if char = '/' then some 63
  else none

/-- The digits of a text. Every byte that is no digit counts as the last one. -/
def digits (text : List Char) : List Nat :=
  text.flatMap fun char =>
    match digit? char with
    | some value => [value]
    | none => List.replicate char.utf8Size 63

/-- The number of 64 bits, the highest of which is its sign, that equals another up to a
multiple of the number of such numbers. -/
def signed64 (bits : Nat) : Int := Int.bmod bits Word.count64

/-- The number that some bits hold, with its sign in the lowest. -/
def zigzag (bits : Nat) : Int :=
  let value := signed64 bits
  let half := Int.fdiv value 2
  if value % 2 = 0 then half else -half

/-- The numbers of a run of digits; nothing if the last one has no end, or if one is longer
than 64 bits. `bits` holds the digits of the current number so far, `shift` their bits. -/
def numbers? (bits shift : Nat) : List Nat → Option (List Int)
  | [] => if shift = 0 then some [] else none
  | digit :: rest =>
    if 64 ≤ shift then none
    else
      let bits := bits + digit % 32 * Nat.pow 2 shift
      if digit < 32 then (numbers? 0 0 rest).map (zigzag bits :: ·)
      else numbers? bits (shift + 5) rest

def numbersOf? (text : List Char) : Option (List Int) := numbers? 0 0 (digits text)

/-- The bits of a text of base 64 digits, the low ones of each digit first. -/
def bitsOf? (text : List Char) : Option (List Bool) :=
  (text.mapM digit?).map fun values =>
    values.flatMap fun value => (List.range 6).map fun place => value.testBit place

end EditionGuard.SourceMap
