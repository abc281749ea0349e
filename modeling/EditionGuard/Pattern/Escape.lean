import EditionGuard.Pattern.Flags
import EditionGuard.Pattern.Regex
import EditionGuard.Text.Digit

/-!
# Escapes

What stands behind a backslash in a pattern: characters by letter or number, sets, and
conditions on places.
-/

namespace EditionGuard.Pattern

open EditionGuard.Text

/-- A single thing in a pattern. -/
inductive Primitive where
  | char (char : Char)
  /-- A character given by two hexadecimal digits: a byte, where characters are not asked
  for. -/
  | byte (char : Char)
  | set (chars : CharSet)
  | look (condition : Look)
deriving DecidableEq, Repr, Inhabited

def charOfHex? (digits : List Char) : Option Char :=
  (Text.hexadecimal? digits).bind fun value =>
    if value.isValidChar then some (Char.ofNat value) else none

def readBracedHex? (flags : Flags) : Nat → List Char → Option (List Char × List Char)
  | 0, _ => none
  | fuel + 1, text =>
    match flags.skip text with
    | [] => none
    | '\x7d' :: rest => some ([], flags.skip rest)
    | char :: rest =>
      if isHexDigit char then
        (readBracedHex? flags fuel rest).map fun (digits, rest) => (char :: digits, rest)
      else none

def readHexDigits? (flags : Flags) : Nat → List Char → Option (List Char × List Char)
  | 0, text => some ([], text)
  | count + 1, text =>
    match flags.skip text with
    | [] => none
    | char :: rest =>
      if isHexDigit char then
        (readHexDigits? flags count rest).map fun (digits, rest) => (char :: digits, rest)
      else none

/-- A character by number, with so many digits or in braces. -/
def readHex? (flags : Flags) (count : Nat) (text : List Char) :
    Option (Primitive × List Char) :=
  match flags.skip text with
  | '\x7b' :: rest =>
    (readBracedHex? flags (rest.length + 1) rest).bind fun (digits, rest) =>
      if digits.isEmpty || 8 < (digits.dropWhile (· == '0')).length then none
      else (charOfHex? digits).map fun char => (.char char, rest)
  | rest =>
    (readHexDigits? flags count rest).bind fun (digits, rest) =>
      (charOfHex? digits).map fun char =>
        (if count = 2 then .byte char else .char char, flags.skip rest)

def readBracedName? (flags : Flags) : Nat → List Char → Option (List Char × List Char)
  | 0, _ => none
  | fuel + 1, text =>
    match flags.skip text with
    | [] => none
    | '\x7d' :: rest => some ([], rest)
    | char :: rest =>
      (readBracedName? flags fuel rest).map fun (name, rest) => (char :: name, rest)

def cutAt? (mark : List Char) : List Char → Option (List Char × List Char)
  | [] => none
  | char :: rest =>
    if startsWith mark (char :: rest) then some ([], (char :: rest).drop mark.length)
    else (cutAt? mark rest).map fun (before, after) => (char :: before, after)

def propertyOf? (name : List Char) : Option (Unicode.Property × Bool) :=
  match cutAt? ['!', '='] name with
  | some (name, value) => (Unicode.Property.ofValue? name value).map fun found => (found, true)
  | none =>
    match (cutAt? [':'] name).orElse fun _ => cutAt? ['='] name with
    | some (name, value) => (Unicode.Property.ofValue? name value).map fun found => (found, false)
    | none => (Unicode.Property.ofName? name).map fun found => (found, false)

/-- A set taken without regard to case where the flags say so. -/
def Flags.fold (flags : Flags) (chars : CharSet) : CharSet :=
  if flags.contains .ignoreCase then
    if flags.contains .unicode then .folded chars else .foldedAscii chars
  else chars

def negateIf (negated : Bool) (chars : CharSet) : CharSet :=
  if negated then .complement chars else chars

/-- A set of characters by property. Without characters there are none. -/
def readProperty? (flags : Flags) (negated : Bool) (text : List Char) :
    Option (Primitive × List Char) :=
  let found := match flags.skip text with
    | [] => none
    | '\x7b' :: rest =>
      (readBracedName? flags (rest.length + 1) rest).bind fun (name, rest) =>
        (propertyOf? name).map fun found => (found, rest)
    | '\\' :: _ => none
    | char :: rest =>
      (Unicode.Property.ofName? [char]).map fun found => ((found, false), flags.skip rest)
  if flags.contains .unicode then
    found.map fun ((property, inner), rest) =>
      (.set (negateIf (negated != inner) (flags.fold (.property property))), rest)
  else none

def letterSet (unicode : Bool) : Char → CharSet
  | 'd' => if unicode then .property (.categories ["Nd"]) else .range 0x30 0x39
  | 's' =>
    if unicode then .property .whiteSpace else CharSet.ofRanges [(9, 13), (0x20, 0x20)]
  | _ =>
    if unicode then .word
    else CharSet.ofRanges [(0x30, 0x39), (0x41, 0x5A), (0x5F, 0x5F), (0x61, 0x7A)]

/-- The condition that a word in braces asks for behind the letter of word boundaries. -/
def boundaryNamed? (ascii : Bool) (name : List Char) : Option Look :=
  if name = "start".toList then some (.wordStart ascii)
  else if name = "end".toList then some (.wordEnd ascii)
  else if name = "start-half".toList then some (.wordStartHalf ascii)
  else if name = "end-half".toList then some (.wordEndHalf ascii)
  else none

/-- A word boundary; a brace that no word follows is left for a repetition. -/
def readBoundary? (flags : Flags) (text : List Char) : Option (Primitive × List Char) :=
  let ascii := !flags.contains .unicode
  let isLetter (char : Char) : Bool := char.isAlpha || char == '-'
  match text with
  | '\x7b' :: rest =>
    match flags.skip rest with
    | [] => none
    | char :: body =>
      if isLetter char then
        let (name, rest) := (char :: body).span isLetter
        match flags.skip rest with
        | '\x7d' :: rest => (boundaryNamed? ascii name).map fun found => (.look found, rest)
        | _ => none
      else some (.look (.wordBoundary ascii), text)
  | _ => some (.look (.wordBoundary ascii), text)

def readEscape? (flags : Flags) (text : List Char) : Option (Primitive × List Char) :=
  let unicode := flags.contains .unicode
  match text with
  | [] => none
  | char :: rest =>
    match char with
    | 'x' => readHex? flags 2 rest
    | 'u' => readHex? flags 4 rest
    | 'U' => readHex? flags 8 rest
    | 'p' => readProperty? flags false rest
    | 'P' => readProperty? flags true rest
    | 'd' | 's' | 'w' => some (.set (letterSet unicode char), rest)
    | 'D' | 'S' | 'W' =>
      if unicode then some (.set (.complement (letterSet true char.toLower)), rest) else none
    | 'a' => some (.char '\x07', rest)
    | 'f' => some (.char '\x0c', rest)
    | 't' => some (.char '\t', rest)
    | 'n' => some (.char '\n', rest)
    | 'r' => some (.char '\r', rest)
    | 'v' => some (.char '\x0b', rest)
    | 'A' => some (.look .textStart, rest)
    | 'z' => some (.look .textEnd, rest)
    | 'b' => readBoundary? flags rest
    | 'B' => some (.look (.noWordBoundary !unicode), rest)
    | '<' => some (.look (.wordStart !unicode), rest)
    | '>' => some (.look (.wordEnd !unicode), rest)
    | _ => if char.isAlphanum || 0x80 ≤ char.toNat then none else some (.char char, rest)

end EditionGuard.Pattern
