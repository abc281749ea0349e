import EditionGuard.Markup.NamedCharacter
import EditionGuard.Markup.Token
import EditionGuard.Text.Basic
import EditionGuard.Text.Digit

/-!
# Character references

An ampersand may begin a reference to a character by number or by name. What follows the
ampersand is read; a reference that cannot be read leaves the ampersand as it is.
-/

namespace EditionGuard.Markup.Reference

/-- The value of the digits that a text begins with, and how many there are. -/
def readNumber (base : Nat) (digit? : Char → Option Nat) : Nat → List Char → Nat × Nat
  | value, [] => (value, 0)
  | value, char :: rest =>
    match digit? char with
    | none => (value, 0)
    | some digit =>
      let (total, count) := readNumber base digit? (value * base + digit) rest
      (total, count + 1)

/-- What the numbers from 128 to 159 stand for, where it is not the character of that
number. -/
def controlReplacements : List (Nat × Nat) :=
  [(0x80, 0x20AC), (0x82, 0x201A), (0x83, 0x0192), (0x84, 0x201E), (0x85, 0x2026),
    (0x86, 0x2020), (0x87, 0x2021), (0x88, 0x02C6), (0x89, 0x2030), (0x8A, 0x0160),
    (0x8B, 0x2039), (0x8C, 0x0152), (0x8E, 0x017D), (0x91, 0x2018), (0x92, 0x2019),
    (0x93, 0x201C), (0x94, 0x201D), (0x95, 0x2022), (0x96, 0x2013), (0x97, 0x2014),
    (0x98, 0x02DC), (0x99, 0x2122), (0x9A, 0x0161), (0x9B, 0x203A), (0x9C, 0x0153),
    (0x9E, 0x017E), (0x9F, 0x0178)]

/-- The character of a number; the replacement character for numbers that have none. -/
def ofNumber (number : Nat) : Char :=
  let point := ((controlReplacements.find? fun entry => entry.1 == number).map (·.2)).getD number
  if point = 0 ∨ ¬ point.isValidChar then '\uFFFD' else Char.ofNat point

/-- The characters that an entry of the table gives in hexadecimal. -/
def hexWords (words : List (List Char)) : List Char :=
  words.map fun word => Char.ofNat ((Text.hexadecimal? word).getD 0)

def entryOf? (entry : List Char) : Option (List Char × List Char) :=
  match Text.splitAt ' ' entry with
  | name :: value :: more => some (name, hexWords (value :: more))
  | _ => none

def names : List (List Char × List Char) :=
  nameTable.flatMap fun line => (Text.splitAt ',' line.toList).filterMap entryOf?

def longestName? (text : List Char) : Option (List Char × List Char) :=
  names.foldl (fun best entry =>
    let length := (best.map fun found => found.1.length).getD 0
    if Text.startsWith entry.1 text ∧ length < entry.1.length then some entry else best) none

/-- A reference whose ampersand has been read: the characters it stands for, and how many
characters of the text belong to it. In the value of an attribute a name without semicolon
is none if a letter, a digit or an equals sign follows. -/
def read (inAttribute : Bool) (text : List Char) : List Char × Nat :=
  let number (base : Nat) (digit? : Char → Option Nat) (start : Nat) : List Char × Nat :=
    match readNumber base digit? 0 (text.drop start) with
    | (_, 0) => (['&'], 0)
    | (value, count) =>
      let length := start + count
      ([ofNumber value], if (text.drop length).head? = some ';' then length + 1 else length)
  match text with
  | '#' :: 'x' :: _ => number 16 Text.hexDigit? 2
  | '#' :: 'X' :: _ => number 16 Text.hexDigit? 2
  | '#' :: _ => number 10 Text.decimalDigit? 1
  | _ =>
    match longestName? text with
    | none => (['&'], 0)
    | some (name, value) =>
      let goesOn := match (text.drop name.length).head? with
        | some next => next.isAlphanum || next == '='
        | none => false
      if inAttribute && name.getLast? != some ';' && goesOn then (['&'], 0)
      else (value, name.length)

/-- The value of an attribute with its references resolved. The number counts characters
that a reference has taken already. -/
def expand : Nat → List Char → List Char
  | _, [] => []
  | taken + 1, _ :: rest => expand taken rest
  | 0, char :: rest =>
    if char == '&' then
      let (value, length) := read true rest
      value ++ expand length rest
    else char :: expand 0 rest

end EditionGuard.Markup.Reference
