import EditionGuard.Json.Value
import EditionGuard.Text.Digit
import EditionGuard.Text.Utf8

/-!
# Reading JSON

All marks of JSON are single bytes, so that bytes are read, each as the character of its
number; only texts are decoded. Comments, trailing commas and whatever follows the value
are refused.
-/

namespace EditionGuard.Json

def isBlank (char : Char) : Bool :=
  char == ' ' || char == '\n' || char == '\t' || char == '\r'

/-- The text from its first mark on. -/
def skipBlanks (text : List Char) : List Char := text.dropWhile isBlank

/-- A piece of a text as it is written: a byte, or the number in an escape. -/
inductive Piece where
  | byte (byte : UInt8)
  | unit (number : Nat)
deriving DecidableEq, Repr

def escape? : Char → Option Char
  | '\x22' => some '\x22'
  | '\\' => some '\\'
  | '/' => some '/'
  | 'b' => some '\x08'
  | 'f' => some '\x0c'
  | 'n' => some '\n'
  | 'r' => some '\r'
  | 't' => some '\t'
  | _ => none

/-- The pieces of a text up to its closing quote, and what follows that. -/
def readPieces? : List Char → Option (List Piece × List Char)
  | [] => none
  | '\x22' :: rest => some ([], rest)
  | '\\' :: 'u' :: first :: second :: third :: fourth :: rest =>
    (Text.hexadecimal? [first, second, third, fourth]).bind fun number =>
      (readPieces? rest).map fun (pieces, rest) => (.unit number :: pieces, rest)
  | '\\' :: letter :: rest =>
    (escape? letter).bind fun char =>
      (readPieces? rest).map fun (pieces, rest) => (.byte char.toNat.toUInt8 :: pieces, rest)
  | char :: rest =>
    if char == '\\' || char.toNat < 0x20 then none
    else (readPieces? rest).map fun (pieces, rest) => (.byte char.toNat.toUInt8 :: pieces, rest)

/-- The bytes of a text; nothing if it holds half of a surrogate pair. -/
def bytesOf? : List Piece → Option (List UInt8)
  | [] => some []
  | .byte byte :: rest => (bytesOf? rest).map (byte :: ·)
  | .unit number :: rest =>
    if 0xD800 ≤ number ∧ number < 0xDC00 then
      match rest with
      | .unit low :: rest =>
        if 0xDC00 ≤ low ∧ low < 0xE000 then
          let point := 0x10000 + (number - 0xD800) * 0x400 + (low - 0xDC00)
          (bytesOf? rest).map (String.utf8EncodeChar (Char.ofNat point) ++ ·)
        else none
      | _ => none
    else if 0xDC00 ≤ number ∧ number < 0xE000 then none
    else (bytesOf? rest).map (String.utf8EncodeChar (Char.ofNat number) ++ ·)

/-- A text whose opening quote has been read: its characters, if it has any, and what
follows. -/
def readText? (text : List Char) : Option (Option (List Char) × List Char) :=
  (readPieces? text).map fun (pieces, rest) =>
    ((bytesOf? pieces).bind Text.Utf8.decode?, rest)

def digitsValue (digits : List Char) : Nat := (Text.decimal? digits).getD 0

/-- The digits after a point; nothing if the point has none. -/
def readFraction? : List Char → Option (List Char × List Char)
  | '.' :: rest =>
    let (digits, rest) := rest.span Char.isDigit
    if digits.isEmpty then none else some (digits, rest)
  | text => some ([], text)

def readExponent? : List Char → Option (Int × Bool × List Char)
  | [] => some (0, false, [])
  | mark :: rest =>
    if mark == 'e' || mark == 'E' then
      let (negative, rest) := match rest with
        | '-' :: rest => (true, rest)
        | '+' :: rest => (false, rest)
        | rest => (false, rest)
      let (digits, rest) := rest.span Char.isDigit
      if digits.isEmpty then none
      else
        let value : Int := digitsValue digits
        some (if negative then -value else value, true, rest)
    else some (0, false, mark :: rest)

/-- A number. A zero in front is all of the whole part. -/
def readNumber? (text : List Char) : Option (Number × List Char) :=
  let (negative, text) := match text with
    | '-' :: rest => (true, rest)
    | text => (false, text)
  let (whole, rest) := match text with
    | '0' :: rest => (['0'], rest)
    | text => text.span Char.isDigit
  if whole.isEmpty || (whole == ['0'] && (rest.head?.map Char.isDigit).getD false) then none
  else
    (readFraction? rest).bind fun (fraction, rest) =>
      (readExponent? rest).map fun (exponent, scaled, rest) =>
        ({ negative
           digits := digitsValue (whole ++ fraction)
           exponent := exponent - fraction.length
           whole := fraction.isEmpty && !scaled }, rest)

mutual

def readValue? : Nat → List Char → Option (Value × List Char)
  | 0, _ => none
  | fuel + 1, text =>
    match skipBlanks text with
    | 'n' :: 'u' :: 'l' :: 'l' :: rest => some (.null, rest)
    | 't' :: 'r' :: 'u' :: 'e' :: rest => some (.bool true, rest)
    | 'f' :: 'a' :: 'l' :: 's' :: 'e' :: rest => some (.bool false, rest)
    | '\x22' :: rest => (readText? rest).map fun (chars, rest) => (.text chars, rest)
    | '[' :: rest =>
      match skipBlanks rest with
      | ']' :: rest => some (.list [], rest)
      | rest => (readItems? fuel rest).map fun (items, rest) => (.list items, rest)
    | '\x7b' :: rest =>
      match skipBlanks rest with
      | '\x7d' :: rest => some (.record [], rest)
      | rest => (readEntries? fuel rest).map fun (entries, rest) => (.record entries, rest)
    | rest => (readNumber? rest).map fun (number, rest) => (.number number, rest)

def readItems? : Nat → List Char → Option (List Value × List Char)
  | 0, _ => none
  | fuel + 1, text =>
    (readValue? fuel text).bind fun (item, rest) =>
      match skipBlanks rest with
      | ',' :: rest => (readItems? fuel rest).map fun (items, rest) => (item :: items, rest)
      | ']' :: rest => some ([item], rest)
      | _ => none

def readEntries? : Nat → List Char → Option (List (Option (List Char) × Value) × List Char)
  | 0, _ => none
  | fuel + 1, text =>
    match skipBlanks text with
    | '\x22' :: rest =>
      (readText? rest).bind fun (key, rest) =>
        match skipBlanks rest with
        | ':' :: rest =>
          (readValue? fuel rest).bind fun (value, rest) =>
            match skipBlanks rest with
            | ',' :: rest =>
              (readEntries? fuel rest).map fun (entries, rest) => ((key, value) :: entries, rest)
            | '\x7d' :: rest => some ([(key, value)], rest)
            | _ => none
        | _ => none
    | _ => none

end

/-- The value that some bytes are. Every step reads a byte at least, so twice their number
bounds the steps. -/
def read? (bytes : List UInt8) : Option Value :=
  let text := bytes.map fun byte => Char.ofNat byte.toNat
  match readValue? (2 * text.length + 1) text with
  | some (value, rest) => if (skipBlanks rest).isEmpty then some value else none
  | none => none

def ofText? (text : List Char) : Option Value := read? (Text.Utf8.encode text)

end EditionGuard.Json
