import EditionGuard.CommandLine.Arguments
import EditionGuard.Log
import EditionGuard.Text.Blank

/-!
# Filtering logs

Which events are shown. A threshold is a number of levels: those up to it in order of
weight are shown. Directives set thresholds for origins of events; the longest that fits an
origin counts.
-/

namespace EditionGuard.CommandLine

inductive DirectiveScope where
  | everything
  /-- The origins that begin with a text. -/
  | origin (start : List Char)
  /-- A part of the program's course, in which no event lies. -/
  | span
deriving DecidableEq, Repr, Inhabited

/-- Sets the threshold of what it is about. -/
structure Directive where
  scope : DirectiveScope
  threshold : Nat
deriving DecidableEq, Repr, Inhabited

/-- The threshold of a word: the name of a level, the word for no level at all, or a number,
which may have a plus sign. -/
def threshold? (word : List Char) : Option Nat :=
  let digits := match word with
    | '+' :: rest => rest
    | rest => rest
  match Edition.digitsValue? digits with
  | some number => if number ≤ LogLevel.all.length then some number else none
  | none =>
    let name := String.ofList (Text.lowerAscii word)
    if name = "off" then some 0
    else (LogLevel.all.find? fun level => level.key == name).map LogLevel.rank

def noThreshold : Nat := LogLevel.all.length

namespace Directive

def mayStart (char : Char) : Bool :=
  char.isAlphanum || char == '-' || char == ':' || char == '_' || char == '[' ||
    0x80 ≤ char.toNat

/-- The directive of a text; nothing if it is malformed. A word alone is a level or else an
origin of which everything is shown. The equals sign is looked for in the text without the
blanks around it, but its place is counted in the text as it is. -/
def ofText? (text : List Char) : Option Directive :=
  let body := Text.trim text
  if !(body.head?.map mayStart).getD false then none
  else if text.contains '[' then
    if text.contains ']' then some ⟨.span, noThreshold⟩ else none
  else
    let place := (body.takeWhile (· != '=')).length
    if place = body.length then
      match threshold? text with
      | some threshold => some ⟨.everything, threshold⟩
      | none => some ⟨.origin text, noThreshold⟩
    else
      let name := text.take place
      match text.drop (place + 1) with
      | [] => some ⟨.origin name, noThreshold⟩
      | level => (threshold? level).map fun threshold => ⟨.origin name, threshold⟩

/-- How much of an origin a directive fixes, if it is about the origin. -/
def fit? (origin : List Char) (directive : Directive) : Option Nat :=
  match directive.scope with
  | .everything => some 0
  | .origin start => if Text.startsWith start origin then some (start.length + 1) else none
  | .span => none

/-- The directives of a text; nothing if one is malformed. No directive at all stands for
errors only. -/
def listOf? (text : List Char) : Option (List Directive) :=
  match ((Text.splitAt ',' text).filter (!·.isEmpty)).mapM ofText? with
  | some [] => some [⟨.everything, LogLevel.error.rank⟩]
  | directives => directives

/-- The threshold of an origin under some directives: of those that fit best, the last
counts. -/
def thresholdOf (origin : List Char) (directives : List Directive) : Nat :=
  let best := directives.foldl (fun best directive =>
    match directive.fit? origin with
    | none => best
    | some fit =>
      if ((best.map Prod.fst).getD 0) ≤ fit then some (fit, directive.threshold) else best)
    (none : Option (Nat × Nat))
  (best.map Prod.snd).getD 0

end Directive

def origin : List Char := "check_syntax_native".toList

/-- The threshold that arguments ask for: warnings, or more or fewer levels. -/
def Arguments.threshold (arguments : Arguments) : Nat :=
  min (LogLevel.warning.rank + arguments.verbose - arguments.quiet) noThreshold

/-- The threshold of a run. Directives count only if the arguments ask for nothing. -/
def thresholdFor (arguments : Arguments) (directives : Option (List Char)) : Nat :=
  if arguments.verbose = 0 ∧ arguments.quiet = 0 then
    match directives.bind Directive.listOf? with
    | some directives => Directive.thresholdOf origin directives
    | none => arguments.threshold
  else arguments.threshold

end EditionGuard.CommandLine
