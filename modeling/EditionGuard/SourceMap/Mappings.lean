import EditionGuard.SourceMap.Base64
import EditionGuard.SourceMap.Basic
import EditionGuard.Word

/-!
# Mappings

The tokens of a source map as text: lines that end at semicolons, segments that end at
commas. A segment holds the differences to the one before it.
-/

namespace EditionGuard.SourceMap

/-- The values that the next segment is counted from. -/
structure Cursor where
  column : Nat := 0
  source : Nat := 0
  sourceLine : Nat := 0
  sourceColumn : Nat := 0
  name : Nat := 0
deriving DecidableEq, Repr, Inhabited

/-- A value of 32 bits moved by a difference. -/
def moved (value : Nat) (difference : Int) : Nat := ((value + difference) % Word.count32).toNat

/-- Moves on by the numbers of a segment, and tells whether it has a source. The indices of
sources and names must lie below the given counts. -/
def Cursor.advance? (sourceCount nameCount : Nat) (cursor : Cursor) :
    List Int → Option (Cursor × Bool)
  | [column] => some ({ cursor with column := moved cursor.column column }, false)
  | column :: source :: line :: sourceColumn :: name =>
    let next := { cursor with
      column := moved cursor.column column
      source := moved cursor.source source
      sourceLine := moved cursor.sourceLine line
      sourceColumn := moved cursor.sourceColumn sourceColumn }
    if sourceCount ≤ next.source then none
    else match name with
      | [] => some (next, true)
      | [name] =>
        let next := { next with name := moved cursor.name name }
        if nameCount ≤ next.name then none else some (next, true)
      | _ => none
  | _ => none

def Cursor.token (line : Nat) (isRange hasSource : Bool) (cursor : Cursor) : Token :=
  ⟨line, cursor.column, if hasSource then some cursor.source else none, cursor.sourceLine,
    cursor.sourceColumn, isRange⟩

/-- Reads the segments of a line. Each comes with whether it is a range; empty segments
stand for nothing. -/
def readSegments (sourceCount nameCount line : Nat) (cursor : Cursor) :
    List (List Char × Bool) → Option (Cursor × List Token)
  | [] => some (cursor, [])
  | (segment, isRange) :: rest =>
    if segment.isEmpty then readSegments sourceCount nameCount line cursor rest
    else do
      let numbers ← numbersOf? segment
      let (next, hasSource) ← cursor.advance? sourceCount nameCount numbers
      let (last, tokens) ← readSegments sourceCount nameCount line next rest
      return (last, next.token line isRange hasSource :: tokens)

/-- The segments of a line, each with its bit of the line's ranges. -/
def segmentsWith (ranges : List Bool) (line : List Char) : List (List Char × Bool) :=
  (Text.splitAt ',' line).zipIdx.map fun (segment, index) =>
    (segment, (ranges[index]?).getD false)

/-- Reads lines of mappings, the first of which has the given number. Each comes with the
text of its ranges; empty lines stand for nothing. -/
def readLines (sourceCount nameCount line : Nat) (cursor : Cursor) :
    List (List Char × List Char) → Option (List Token)
  | [] => some []
  | (text, ranges) :: rest =>
    if text.isEmpty then readLines sourceCount nameCount (line + 1) cursor rest
    else do
      let bits ← bitsOf? ranges
      let (next, tokens) ← readSegments sourceCount nameCount line { cursor with column := 0 }
        (segmentsWith bits text)
      let others ← readLines sourceCount nameCount (line + 1) next rest
      return tokens ++ others

/-- The tokens of a text of mappings and one of ranges, in the order in which they are
written; nothing if a segment is malformed. -/
def readMappings (sourceCount nameCount : Nat) (mappings ranges : List Char) :
    Option (List Token) :=
  let lines := Text.splitAt ';' mappings
  let rangeLines := Text.splitAt ';' ranges
  readLines sourceCount nameCount 0 {}
    (lines.zipIdx.map fun (line, index) => (line, (rangeLines[index]?).getD []))

end EditionGuard.SourceMap
