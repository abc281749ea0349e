import EditionGuard.Problem
import EditionGuard.Report.Incompatibility
import EditionGuard.Text.Basic

/-!
# Reports

The findings of a check as text. A report is a list of lines; printing hands them one after
the other to a sink that may fail.
-/

namespace EditionGuard.Report

/-- A labelled part of a finding. -/
inductive Field where
  | source
  | output
  | reason
  | code
deriving DecidableEq, Repr, Inhabited

namespace Field

def all : List Field := [.source, .output, .reason, .code]

def key : Field → String
  | .source => "source"
  | .output => "output"
  | .reason => "reason"
  | .code => "code"

def ofKey? (key : String) : Option Field := all.find? fun field => field.key == key

def content (error : Incompatibility) : Field → List Char
  | .source => error.source.location.display
  | .output => (error.output.map FileLocation.display).getD []
  | .reason => error.message.toList
  | .code => error.source.code.toList

def label (field : Field) : List Char :=
  Text.alignLeft ((all.map fun field => field.key.length).foldl max 0 + 1)
    (field.key.toList ++ [':'])

end Field

/-- How much a report says. -/
inductive Verbosity where
  /-- No word of success. -/
  | quiet
  | normal
  /-- The number of files as well. -/
  | verbose
deriving DecidableEq, Repr, Inhabited

namespace Verbosity

def all : List Verbosity := [.quiet, .normal, .verbose]

def key : Verbosity → String
  | .quiet => "quiet"
  | .normal => "normal"
  | .verbose => "verbose"

def ofKey? (key : String) : Option Verbosity := all.find? fun verbosity => verbosity.key == key

end Verbosity

structure Settings where
  excludeFields : List Field := []
  verbosity : Verbosity := .normal
  colour : Bool := false
  filesChecked : Nat := 0
deriving DecidableEq, Repr, Inhabited

/-- What each heading of a report begins with. -/
def tag : List Char := "[check-syntax]".toList

/-- The lines of a finding: its fields that are shown and not empty, and an empty line. -/
def blockLines (settings : Settings) (error : Incompatibility) : List (List Char) :=
  let fields := Field.all.filter fun field =>
    !settings.excludeFields.contains field && !(field.content error).isEmpty
  fields.map (fun field =>
    "  ".toList ++ Text.paint settings.colour .magenta field.label ++ "  ".toList ++
      field.content error) ++ [[]]

def title (settings : Settings) (number : Nat) : List Char :=
  Text.paint settings.colour .bold
    (Text.paint settings.colour .red ("  ERROR ".toList ++ Text.decimal number))

def headLines (settings : Settings) (edition : Edition) : List (List Char) :=
  let expected := Text.paint settings.colour .yellow
    ("ecmaVersion <= ".toList ++ edition.display.toList)
  [Text.paint settings.colour .red "error".toList ++ [' '] ++ tag ++
    " Find some syntax that does not match \"".toList ++ expected ++ "\":".toList, []]

def readyLines (settings : Settings) : List (List Char) :=
  if settings.verbosity = .quiet then []
  else [Text.paint settings.colour .green "ready".toList ++ [' '] ++ tag ++
    " Syntax check passed.".toList]

def filesLines (settings : Settings) : List (List Char) :=
  if settings.verbosity = .verbose then
    [tag ++ " checked ".toList ++ Text.decimal settings.filesChecked ++ " file(s)".toList]
  else []

def lines (errors : List Incompatibility) (edition : Edition) (settings : Settings) :
    List (List Char) :=
  let body :=
    if errors.isEmpty then readyLines settings
    else headLines settings edition ++ errors.zipIdx.flatMap fun (error, index) =>
      title settings (index + 1) :: blockLines settings error
  body ++ filesLines settings

def text (errors : List Incompatibility) (edition : Edition) (settings : Settings) :
    List Char :=
  (lines errors edition settings).flatMap (· ++ ['\n'])

/-- Where a report is written to: what has been written, and how many bytes more it takes
if that is limited. -/
structure Sink where
  written : List Char := []
  room : Option Nat := none
deriving DecidableEq, Repr, Inhabited

/-- Writes a text whole or fails. -/
def Sink.write? (sink : Sink) (text : List Char) : Option Sink :=
  match sink.room with
  | none => some { sink with written := sink.written ++ text }
  | some room =>
    if Text.byteLength text ≤ room then
      some ⟨sink.written ++ text, some (room - Text.byteLength text)⟩
    else none

def Sink.writeLines? (sink : Sink) : List (List Char) → Option Sink
  | [] => some sink
  | line :: rest => (sink.write? (line ++ ['\n'])).bind (·.writeLines? rest)

def verdict (errors : List Incompatibility) (edition : Edition) : Option Problem :=
  if errors.isEmpty then none else some (.incompatible edition errors.length)

/-- Prints a report: the sink afterwards, unless it failed, and the problem that remains. -/
def print (sink : Sink) (errors : List Incompatibility) (edition : Edition)
    (settings : Settings) : Option Sink × Option Problem :=
  match sink.writeLines? (lines errors edition settings) with
  | none => (none, some (.unwritten "sink full"))
  | some sink => (some sink, verdict errors edition)

end EditionGuard.Report
