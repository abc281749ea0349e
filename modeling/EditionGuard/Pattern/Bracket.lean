import EditionGuard.Pattern.Escape

/-!
# Sets in brackets

A set of characters written out: characters, ranges, sets with names, sets in sets, and
operations on what stands before and behind.
-/

namespace EditionGuard.Pattern

open EditionGuard.Text

inductive SetOperation where
  | intersection
  | difference
  | symmetricDifference
deriving DecidableEq, Repr

def SetOperation.apply : SetOperation → CharSet → CharSet → CharSet
  | .intersection => .intersection
  | .difference => .difference
  | .symmetricDifference => .symmetricDifference

/-- What is waiting for a set: an operation and what stands before it. -/
abbrev Waiting := Option (CharSet × SetOperation)

/-- The set of what waits together with what has been read behind it. -/
def Waiting.finish (waiting : Waiting) (chars : CharSet) : CharSet :=
  match waiting with
  | none => chars
  | some (before, operation) => operation.apply before chars

/-- The character that a primitive stands for in a set. Where only bytes are asked for, it
must be one that is a character by itself. -/
def Primitive.char? (flags : Flags) : Primitive → Option Char
  | .char single | .byte single =>
    if flags.contains .unicode || single.toNat < 0x80 then some single else none
  | _ => none

def Primitive.set? (flags : Flags) (primitive : Primitive) : Option CharSet :=
  match primitive with
  | .set chars => some chars
  | .look _ => none
  | _ => (primitive.char? flags).map fun single => flags.fold (.char single)

def readMember? (flags : Flags) : List Char → Option (Primitive × List Char)
  | [] => none
  | '\\' :: rest => readEscape? flags rest
  | char :: rest => some (.char char, rest)

/-- A member of a set, or a range of them. A hyphen before the end of the set or before
another hyphen begins no range. -/
def readRange? (flags : Flags) (text : List Char) : Option (CharSet × List Char) :=
  (readMember? flags text).bind fun (first, rest) =>
    match flags.skip rest with
    | [] => none
    | '-' :: rest =>
      match flags.skip rest with
      | [] => none
      | ']' :: _ | '-' :: _ => (first.set? flags).map fun chars => (chars, '-' :: rest)
      | text =>
        (readMember? flags text).bind fun (last, rest) =>
          match first.char? flags, last.char? flags with
          | some first, some last =>
            if first ≤ last then some (flags.fold (.range first.toNat last.toNat), rest)
            else none
          | _, _ => none
    | rest => (first.set? flags).map fun chars => (chars, rest)

/-- A set with a name between colons, after its opening bracket. Without characters it
cannot be negated; that is told apart from there being no name. -/
def readNamed? (flags : Flags) (text : List Char) : Option (Option CharSet × List Char) :=
  match text with
  | ':' :: rest =>
    let (negated, rest) := match rest with
      | '^' :: rest => (true, rest)
      | rest => (false, rest)
    let (name, rest) := rest.span (· != ':')
    match rest with
    | ':' :: ']' :: rest =>
      (CharSet.named? (String.ofList name)).map fun chars =>
        if negated && !flags.contains .unicode then (none, rest)
        else (some (negateIf negated (flags.fold chars)), rest)
    | _ => none
  | _ => none

/-- The hyphens and the closing bracket that a set may begin with as members. -/
def readLeading? (flags : Flags) : Nat → Bool → List Char → Option (CharSet × List Char)
  | 0, _, _ => none
  | fuel + 1, first, text =>
    match flags.skip text with
    | [] => none
    | '-' :: rest =>
      (readLeading? flags fuel false rest).map fun (chars, rest) =>
        (.union (.char '-') chars, rest)
    | ']' :: rest => if first then some (.char ']', rest) else some (.empty, ']' :: rest)
    | rest => some (.empty, rest)

/-- The set behind an opening bracket up to its closing one, with the number of sets that it
is nested in. -/
def readBracket? (flags : Flags) : Nat → List Char → Option (CharSet × List Char)
  | 0, _ => none
  | fuel + 1, text =>
    let (negated, text) := match flags.skip text with
      | '^' :: rest => (true, rest)
      | rest => (false, rest)
    if negated && !flags.contains .unicode then none
    else
      (readLeading? flags (text.length + 1) true text).bind fun (leading, rest) =>
        (readMembers? flags fuel none leading rest).map fun (chars, rest) =>
          (negateIf negated chars, rest)
where
  readMembers? (flags : Flags) : Nat → Waiting → CharSet → List Char →
      Option (CharSet × List Char)
    | 0, _, _, _ => none
    | fuel + 1, waiting, chars, text =>
      match flags.skip text with
      | [] => none
      | ']' :: rest => some (waiting.finish chars, rest)
      | '[' :: rest =>
        match readNamed? flags rest with
        | some (some named, rest) => readMembers? flags fuel waiting (.union chars named) rest
        | some (none, _) => none
        | none =>
          (readBracket? flags fuel rest).bind fun (inner, rest) =>
            readMembers? flags fuel waiting (.union chars inner) rest
      | '&' :: '&' :: rest =>
        readMembers? flags fuel (some (waiting.finish chars, .intersection)) .empty rest
      | '-' :: '-' :: rest =>
        readMembers? flags fuel (some (waiting.finish chars, .difference)) .empty rest
      | '~' :: '~' :: rest =>
        readMembers? flags fuel (some (waiting.finish chars, .symmetricDifference)) .empty rest
      | text =>
        (readRange? flags text).bind fun (member, rest) =>
          readMembers? flags fuel waiting (.union chars member) rest

end EditionGuard.Pattern
