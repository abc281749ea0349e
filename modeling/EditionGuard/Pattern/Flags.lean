import EditionGuard.Text.Blank

/-!
# Flags of patterns

How what follows in a pattern is read, and the blanks and comments that are skipped where
the flags say so.
-/

namespace EditionGuard.Pattern

open EditionGuard.Text

inductive Flag where
  | ignoreCase
  | multiLine
  | dotAll
  /-- Whether repetition takes as little as it can; what matches does not depend on it. -/
  | swapGreed
  | unicode
  | returns
  | verbose
deriving DecidableEq, Repr, Inhabited

def Flag.ofLetter? : Char → Option Flag
  | 'i' => some .ignoreCase
  | 'm' => some .multiLine
  | 's' => some .dotAll
  | 'U' => some .swapGreed
  | 'u' => some .unicode
  | 'R' => some .returns
  | 'x' => some .verbose
  | _ => none

abbrev Flags := List Flag

def Flags.initial : Flags := [.unicode]

def Flags.set (flags : Flags) (flag : Flag) (value : Bool) : Flags :=
  let others := flags.filter (· != flag)
  if value then flag :: others else others

/-- The text after blanks and comments; a comment ends with its line. -/
def skipBlanks (inComment : Bool) : List Char → List Char
  | [] => []
  | char :: rest =>
    if inComment then skipBlanks (char != '\n') rest
    else if char == '#' then skipBlanks true rest
    else if isWhiteSpace char then skipBlanks false rest
    else char :: rest

/-- The text after what is skipped under the given flags. -/
def Flags.skip (flags : Flags) (text : List Char) : List Char :=
  if flags.contains .verbose then skipBlanks false text else text

/-- The letters of a group of flags up to their end, each with whether it is set: what ends
them, the flags, and the rest. No letter may come twice, and a minus must be followed by
one. -/
def readFlags? (negated : Bool) (seen : List (Flag × Bool)) (afterMinus : Bool) :
    List Char → Option (Char × List (Flag × Bool) × List Char)
  | [] => none
  | char :: rest =>
    if char == ':' || char == ')' then
      if afterMinus then none else some (char, seen, rest)
    else if char == '-' then
      if negated then none else readFlags? true seen true rest
    else
      match Flag.ofLetter? char with
      | some flag =>
        if seen.any fun entry => entry.1 == flag then none
        else readFlags? negated (seen ++ [(flag, !negated)]) false rest
      | none => none

end EditionGuard.Pattern
