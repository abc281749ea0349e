import EditionGuard.Pattern.Bracket
import EditionGuard.Word

/-!
# Reading patterns

A pattern is alternatives of sequences of characters, sets, conditions, groups and
repetitions. There is no looking around and no reference back to a group. Patterns that are
nested too deep or too large when written out are refused.
-/

namespace EditionGuard.Pattern

open EditionGuard.Text

/-- An expression with how deep it is nested. -/
structure Parsed where
  regex : Regex
  depth : Nat := 0
deriving DecidableEq, Repr, Inhabited

structure Group where
  flags : Flags
  names : List (List Char)
  /-- The alternatives before, last first. -/
  alternatives : List Parsed := []
  /-- The items of this alternative, last first. What only sets flags has no expression. -/
  items : List (Option Parsed) := []

namespace Group

def add (group : Group) (regex : Regex) (depth : Nat) : Group :=
  { group with items := some ⟨regex, depth⟩ :: group.items }

def sequence (group : Group) : Parsed :=
  match group.items with
  | [] => ⟨.empty, 0⟩
  | [none] => ⟨.empty, 0⟩
  | [some item] => item
  | items =>
    items.foldl (fun (after : Parsed) item? =>
      match item? with
      | none => after
      | some item => ⟨.concat item.regex after.regex, max (item.depth + 1) after.depth⟩)
      ⟨.empty, 1⟩

def split (group : Group) : Group :=
  { group with alternatives := group.sequence :: group.alternatives, items := [] }

def finish (group : Group) : Parsed :=
  match group.alternatives with
  | [] => group.sequence
  | alternatives =>
    alternatives.foldl (fun (after : Parsed) alternative =>
      ⟨.alternate alternative.regex after.regex, max (alternative.depth + 1) after.depth⟩)
      { group.sequence with depth := group.sequence.depth + 1 }

/-- Repeats the last item; nothing if there is none to repeat. -/
def repeat? (group : Group) (least : Nat) (most : Option Nat) : Option Group :=
  match group.items with
  | some item :: before =>
    some { group with items := some ⟨.repeat item.regex least most, item.depth + 1⟩ :: before }
  | _ => none

def setFlags (group : Group) (flags : List (Flag × Bool)) : Group :=
  { group with
    flags := flags.foldl (fun flags (flag, value) => flags.set flag value) group.flags
    items := none :: group.items }

end Group

/-- The digits of a number, with blanks after each where they are skipped. -/
def readDigits (flags : Flags) : Nat → List Char → List Char × List Char
  | 0, text => ([], text)
  | fuel + 1, text =>
    match text with
    | char :: rest =>
      if char.isDigit then
        let (digits, rest) := readDigits flags fuel (flags.skip rest)
        (char :: digits, rest)
      else ([], text)
    | [] => ([], [])

/-- A number below 2 to the 32 with blanks around it. -/
def readCount? (flags : Flags) (text : List Char) : Option (Nat × List Char) :=
  let (digits, rest) := readDigits flags (text.length + 1) (text.dropWhile isWhiteSpace)
  let value := digits.foldl (fun value digit => value * 10 + (digit.toNat - 48)) 0
  if digits.isEmpty || Word.count32 ≤ value then none
  else some (value, flags.skip (rest.dropWhile isWhiteSpace))

/-- The least and the greatest number of a repetition, after its opening brace. -/
def readBounds? (flags : Flags) (text : List Char) :
    Option (Nat × Option Nat × List Char) :=
  (readCount? flags (flags.skip text)).bind fun (least, rest) =>
    match rest with
    | '\x7d' :: rest => some (least, some least, rest)
    | ',' :: rest =>
      match flags.skip rest with
      | '\x7d' :: rest => some (least, none, rest)
      | rest =>
        (readCount? flags rest).bind fun (most, rest) =>
          match rest with
          | '\x7d' :: rest => if least ≤ most then some (least, some most, rest) else none
          | _ => none
    | _ => none

/-- The text without the question mark that may follow a repetition. -/
def skipLazy : List Char → List Char
  | '?' :: rest => rest
  | text => text

def isNameStart (char : Char) : Bool :=
  char == '_' || (Unicode.Property.alphabetic).holds char.toNat

def isNamePart (char : Char) : Bool :=
  isNameStart char || char == '.' || char == '[' || char == ']' ||
    (Unicode.Property.categories ["Nd", "Nl", "No"]).holds char.toNat

def readName? (text : List Char) : Option (List Char × List Char) :=
  let (name, rest) := text.span (· != '>')
  match name, rest with
  | first :: others, '>' :: rest =>
    if isNameStart first && others.all isNamePart then some (name, rest) else none
  | _, _ => none

/-- What an opening parenthesis begins. -/
inductive Opening where
  /-- A group with the flags that hold in it and the names so far. -/
  | group (flags : Flags) (names : List (List Char))
  /-- Flags for what follows. -/
  | flags (flags : List (Flag × Bool))

/-- What follows an opening parenthesis up to the body of the group. -/
def readOpening? (group : Group) (text : List Char) : Option (Opening × List Char) :=
  let text := group.flags.skip text
  let named (text : List Char) : Option (Opening × List Char) :=
    (readName? text).bind fun (name, rest) =>
      if group.names.contains name then none
      else some (.group group.flags (name :: group.names), rest)
  match text with
  | '?' :: '=' :: _ | '?' :: '!' :: _ => none
  | '?' :: '<' :: '=' :: _ | '?' :: '<' :: '!' :: _ => none
  | '?' :: 'P' :: '<' :: rest => named rest
  | '?' :: '<' :: rest => named rest
  | '?' :: rest =>
    (readFlags? false [] false rest).bind fun (mark, flags, rest) =>
      if mark == ')' then if flags.isEmpty then none else some (.flags flags, rest)
      else some (.group (group.setFlags flags).flags group.names, rest)
  | rest => some (.group group.flags group.names, rest)

def Primitive.regex? (flags : Flags) : Primitive → Option Regex
  | .char single => some (.set (flags.fold (.char single)))
  | .byte single =>
    if flags.contains .unicode || single.toNat < 0x80 then
      some (.set (flags.fold (.char single)))
    else none
  | .set chars => some (.set chars)
  | .look condition => some (.look condition)

/-- Any character, as far as the flags let a dot be one. -/
def dot? (flags : Flags) : Option Regex :=
  if !flags.contains .unicode then none
  else if flags.contains .dotAll then some (.set (.range 0 0x10FFFF))
  else if flags.contains .returns then
    some (.set (.complement (.union (.char '\n') (.char '\r'))))
  else some (.set (.complement (.char '\n')))

def lineStart (flags : Flags) : Look :=
  if !flags.contains .multiLine then .textStart
  else if flags.contains .returns then .returnLineStart else .lineStart

def lineEnd (flags : Flags) : Look :=
  if !flags.contains .multiLine then .textEnd
  else if flags.contains .returns then .returnLineEnd else .lineEnd

/-- The rest of a group: its expression, the names of groups up to its end, and what
follows. -/
def readGroup? (isInner : Bool) : Nat → Group → List Char →
    Option (Parsed × List (List Char) × List Char)
  | 0, _, _ => none
  | fuel + 1, group, text =>
    let flags := group.flags
    let next (group? : Option Group) (rest : List Char) :=
      group?.bind fun group => readGroup? isInner fuel group rest
    match flags.skip text with
    | [] => if isInner then none else some (group.finish, group.names, [])
    | ')' :: rest => if isInner then some (group.finish, group.names, rest) else none
    | '|' :: rest => next (some group.split) rest
    | '(' :: rest =>
      match readOpening? group rest with
      | none => none
      | some (.flags set, rest) => next (some (group.setFlags set)) rest
      | some (.group flags names, rest) =>
        (readGroup? true fuel { flags, names } rest).bind fun (inner, names, rest) =>
          next (some ({ group with names }.add inner.regex (inner.depth + 1))) rest
    | '[' :: rest =>
      (readBracket? flags (2 * rest.length + 2) rest).bind fun (chars, rest) =>
        next (some (group.add (.set chars) 1)) rest
    | '*' :: rest => next (group.repeat? 0 none) (skipLazy rest)
    | '+' :: rest => next (group.repeat? 1 none) (skipLazy rest)
    | '?' :: rest => next (group.repeat? 0 (some 1)) (skipLazy rest)
    | '\x7b' :: rest =>
      (readBounds? flags rest).bind fun (least, most, rest) =>
        next (group.repeat? least most) (skipLazy (flags.skip rest))
    | '.' :: rest => (dot? flags).bind fun regex => next (some (group.add regex 0)) rest
    | '^' :: rest => next (some (group.add (.look (lineStart flags)) 0)) rest
    | '$' :: rest => next (some (group.add (.look (lineEnd flags)) 0)) rest
    | '\\' :: rest =>
      (readEscape? flags rest).bind fun (primitive, rest) =>
        (primitive.regex? flags).bind fun regex => next (some (group.add regex 0)) rest
    | char :: rest => next (some (group.add (.set (flags.fold (.char char))) 0)) rest

def depthLimit : Nat := 250

def sizeLimit : Nat := 327680

def Regex.ofText? (text : List Char) : Option Regex :=
  match readGroup? false (text.length + 2) { flags := Flags.initial, names := [] } text with
  | some (parsed, _, _) =>
    if parsed.depth ≤ depthLimit ∧ parsed.regex.size ≤ sizeLimit then some parsed.regex
    else none
  | none => none

end EditionGuard.Pattern
