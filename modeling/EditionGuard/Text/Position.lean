import EditionGuard.Text.Basic
import EditionGuard.Word

/-!
# Positions

A place in a text by line and column. Lines are counted from one and end at line feeds;
columns are counted in characters from zero. The position of an offset has a line and a column of
32 bits.
-/

namespace EditionGuard.Text

/-- A place by line and column. -/
structure Position where
  line : Nat
  column : Nat
deriving DecidableEq, Repr, Inhabited

/-- The greatest character boundary of a text that is not above an offset. -/
def floorBoundary : List Char → Nat → Nat
  | [], _ => 0
  | char :: rest, offset =>
    if char.utf8Size ≤ offset then char.utf8Size + floorBoundary rest (offset - char.utf8Size)
    else 0

/-- The characters that lie wholly before an offset. -/
def before : List Char → Nat → List Char
  | [], _ => []
  | char :: rest, offset =>
    if char.utf8Size ≤ offset then char :: before rest (offset - char.utf8Size) else []

/-- The characters from the boundary at or below an offset on. -/
def after : List Char → Nat → List Char
  | [], _ => []
  | char :: rest, offset =>
    if char.utf8Size ≤ offset then after rest (offset - char.utf8Size) else char :: rest

/-- The part of the last line that a text holds: what follows its last line feed. -/
def lastLine (text : List Char) : List Char :=
  (text.reverse.takeWhile (· != '\n')).reverse

/-- The rest of the first line of a text: what precedes its first line feed. -/
def firstLine (text : List Char) : List Char := text.takeWhile (· != '\n')

namespace Position

/-- A position whose line is at least one. -/
def ofLineColumn (line column : Nat) : Position := ⟨max line 1, column⟩

/-- The position behind a text, however many lines and columns that takes. -/
def behind (read : List Char) : Position := ⟨read.count '\n' + 1, (lastLine read).length⟩

/-- The position of a byte offset; an offset inside a character counts as its start, and
one past the end as the end. Line feeds and columns are counted modulo 2^32, and no line
follows the last one of 32 bits. -/
def ofOffset (text : List Char) (offset : Nat) : Except Overflow Position := do
  let read := before text offset
  let line ← Word.nextLine (read.count '\n' % Word.count32)
  return ⟨line, (lastLine read).length % Word.count32⟩

end Position

end EditionGuard.Text
