import EditionGuard.Text.Paint
import EditionGuard.Text.Position

/-!
# Excerpts

Pieces of code that are shown with a finding: one line with a caret under a character, or
some numbered lines around one that is marked.
-/

namespace EditionGuard.Text

def pointerWidth : Nat := 80

/-- The columns before the code on the line where the report shows it. -/
def labelIndent : Nat := 11

def frameContext : Nat := 3

def trimReturns (line : List Char) : List Char :=
  (line.reverse.dropWhile (· == '\r')).reverse

/-- The line of a text that holds an offset. -/
def lineAt (code : List Char) (offset : Nat) : List Char :=
  lastLine (before code offset) ++ firstLine (after code offset)

/-- The window of a pointer, and the place in it that the caret marks. The window ends with
its line, and begins half its width before the marked character. -/
def pointerWindow (code : List Char) (offset : Nat) : List Char × Nat :=
  let column := (lastLine (before code offset)).length
  let start := column - pointerWidth / 2
  (((trimReturns (lineAt code offset)).drop start).take pointerWidth, column - start)

/-- A line of a text with a caret under the character at an offset. -/
def pointer (code : List Char) (offset : Nat) (colour : Bool) : List Char :=
  let (window, place) := pointerWindow code offset
  window ++ '\n' :: paint colour .yellow (spaces (place + labelIndent - 1) ++ ['^'])

def frameLabel (marked : Bool) (number : Nat) : List Char :=
  alignRight 6 ((if marked then ['>', ' '] else [' ']) ++ decimal number)

def frameRow (marked : Bool) (number : Nat) (line : List Char) : List Char :=
  frameLabel marked number ++ " | ".toList ++ line

def frameRows (lines : List (List Char)) (highlight : Nat) : List (Bool × List Char) :=
  let marked := min highlight (lines.length - 1)
  let start := marked - frameContext
  let shown := (lines.zipIdx.drop start).take (marked + frameContext + 1 - start)
  shown.map fun (line, index) =>
    (index == marked, frameRow (index == marked) (index + 1) line)

/-- Numbered lines around the marked one, counted from zero; a number past the end marks
the last line. -/
def frame (lines : List (List Char)) (highlight : Nat) (colour : Bool) : List Char :=
  if lines.isEmpty then []
  else
    let rows := (frameRows lines highlight).map fun (marked, row) =>
      paint colour (if marked then .yellow else .gray) row
    '\n' :: List.intercalate ['\n'] rows

/-- The lines of a text. A carriage return before a line feed is no part of its line. -/
def lines (text : List Char) : List (List Char) :=
  (splitAt '\n' text).map fun line =>
    if line.getLast? = some '\r' then line.dropLast else line

end EditionGuard.Text
