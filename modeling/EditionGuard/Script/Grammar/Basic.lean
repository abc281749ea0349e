import EditionGuard.Script.Scanner
import EditionGuard.Script.Tree

/-!
# Reading a tree

A parser reads tokens from a state and either finishes with a value or halts at the first
error it cannot go on from. Errors it can go on from are noted in the state. Which
constructs are allowed at a place is part of the setting, which a rule may change for the
rules below it.
-/

namespace EditionGuard.Script.Grammar

/-- What is allowed at a place. -/
structure Setting where
  goal : Goal
  inOperator : Bool
  yieldOperator : Bool
  awaitOperator : Bool
  returnAllowed : Bool
  /-- Whether a bracket after an expression would belong to the decorated element. -/
  inDecorator : Bool
  outsideFunctions : Bool
  /-- A bound on the rounds of any repetition: one takes a token at least. -/
  steps : Nat
deriving Inhabited

/-- The current token with the scans before and after it, and what was noted so far. -/
structure State where
  before : Scan
  token : Token
  after : Scan
  previousStop : Nat
  /-- Errors that did not stop the parser, newest first. -/
  errors : List Diagnostic
  /-- Errors that count only if the text turns out to be a script, newest first. -/
  scriptErrors : List Diagnostic
  /-- Starts of shorthand properties with a default that are no targets so far. -/
  openDefaults : List Nat
  /-- Starts of literals that end in a comma, with the offset of the comma. -/
  trailingCommas : List (Nat × Nat)
  /-- Starts of parentheses known to hold no parameters. -/
  plainParentheses : List Nat
  sawImportMeta : Bool
  sawAwaitName : Bool
deriving Inhabited

/-- How a parser ends. -/
inductive Outcome (α : Type) where
  | done (value : α) (state : State)
  | halted (cause : Diagnostic) (state : State)

def Parser (α : Type) : Type := Setting → State → Outcome α

namespace Parser

instance : Monad Parser where
  pure value := fun _ state => .done value state
  bind first next := fun setting state =>
    match first setting state with
    | .done value after => next value setting after
    | .halted cause after => .halted cause after

def setting : Parser Setting := fun setting state => .done setting state

def state : Parser State := fun _ state => .done state state

def modify (change : State → State) : Parser Unit := fun _ state => .done () (change state)

def within {α : Type} (change : Setting → Setting) (parser : Parser α) : Parser α :=
  fun setting state => parser (change setting) state

def halt {α : Type} (error : GrammarError) (offset : Nat) : Parser α :=
  fun _ state => .halted ⟨error, offset⟩ state

def note (error : GrammarError) (offset : Nat) : Parser Unit :=
  modify fun state => { state with errors := ⟨error, offset⟩ :: state.errors }

def token : Parser Token := do return (← state).token

def kind : Parser TokenKind := do return (← state).token.kind

def isAt (wanted : TokenKind) : Parser Bool := do return (← kind) == wanted

def atMark (mark : Punctuator) : Parser Bool := isAt (.punctuator mark)

def atWord (word : Keyword) : Parser Bool := isAt (.keyword word)

def here : Parser Nat := do return (← state).token.start

def previousStop : Parser Nat := do return (← state).previousStop

def onNewLine : Parser Bool := do return (← state).token.onNewLine

/-- The stretch from an offset to the end of the token before. -/
def spanFrom (start : Nat) : Parser Span := do return ⟨start, ← previousStop⟩

/-- The node of a construct that begins at an offset and ends with the token before. -/
def node (construct : Construct) (start : Nat) (parts : List Node) : Parser Node := do
  return .mk construct (← spanFrom start) parts

def advance : Parser Unit := fun setting state =>
  let (before, token, after) := state.after.token setting.goal false
  .done () { state with before, token, after, previousStop := state.token.stop }

/-- Moves to the next token after one that is used as the keyword it is. -/
def advanceKeyword : Parser Unit := do
  let token ← token
  match token.kind with
  | .keyword _ => if token.escaped then note .escapedKeyword token.start
  | _ => pure ()
  advance

/-- Moves past the given kind of token if it is the current one. -/
def eat (wanted : TokenKind) : Parser Bool := do
  if ← isAt wanted then
    advanceKeyword
    return true
  else return false

def eatMark (mark : Punctuator) : Parser Bool := eat (.punctuator mark)

/-- Whether the characters at a token mark an unresolved merge. -/
def isConflictMarker (state : State) : Bool :=
  state.token.onNewLine &&
    ["<<<<<<<", "=======", ">>>>>>>", "|||||||"].any fun marker =>
      Text.startsWith marker.toList state.before.rest

/-- Halts because the current token is not as the grammar wants it. -/
def haltHere {α : Type} (error : GrammarError) (offset : Nat) : Parser α := do
  let state ← state
  if isConflictMarker state then halt .conflictMarker state.token.start
  else halt error offset

/-- Halts at a token that nothing allows. At the end of the text, or at a character that
is no token, the last error of scanning says more. -/
def unexpected {α : Type} : Parser α := fun setting state =>
  match state.token.kind, state.after.errors with
  | .endOfText, latest :: earlier | .unknown, latest :: earlier =>
    .halted latest { state with after := { state.after with errors := earlier } }
  | _, _ => haltHere .unexpectedToken state.token.start setting state

/-- Requires the current token without moving past it. -/
def require (wanted : TokenKind) : Parser Unit := do
  let token ← token
  if token.kind == wanted then pure ()
  else haltHere (.expectedToken wanted.text token.kind.text) token.start

def expect (wanted : TokenKind) : Parser Unit := do
  require wanted
  advanceKeyword

def expectMark (mark : Punctuator) : Parser Unit := expect (.punctuator mark)

def expectWord (word : Keyword) : Parser Unit := expect (.keyword word)

def canEndStatement : Parser Bool := do
  let token ← token
  return token.kind == .punctuator .semicolon || token.kind == .punctuator .braceClose ||
    token.kind == .endOfText || token.onNewLine

def endStatement : Parser Unit := do
  if ← canEndStatement then
    let _ ← eatMark .semicolon
  else
    haltHere .missingSemicolon (← previousStop)

/-- The answer of a parser whose effects are undone; no, if it halts. -/
def lookahead (parser : Parser Bool) : Parser Bool := fun setting state =>
  match parser setting state with
  | .done answer _ => .done answer state
  | .halted _ _ => .done false state

def nextToken : Parser Token := fun setting state =>
  let (_, token, _) := state.after.token setting.goal false
  .done token state

/-- Runs a parser, or undoes it and takes the alternative if it halts. What was learned
about parentheses is kept. -/
def orUndo {α : Type} (parser : Parser α) (alternative : Parser α) : Parser α :=
  fun setting state =>
    match parser setting state with
    | .done value after => .done value after
    | .halted _ after =>
      alternative setting { state with plainParentheses := after.plainParentheses }

/-- Takes the token at the current place to be the start of an operator. -/
def rereadGreater : Parser Unit := fun _ state =>
  if state.token.kind == .punctuator .greater then
    let (token, after) := state.before.rescanGreater state.token.onNewLine
    .done () { state with token, after }
  else .done () state

/-- Takes the slash at the current place to open a regular expression. -/
def rereadRegex : Parser Unit := fun _ state =>
  let (token, after) := state.before.rescanRegex state.token.onNewLine
  .done () { state with token, after }

/-- Takes the brace at the current place to end a substitution. -/
def rereadTemplate : Parser Unit := fun _ state =>
  if state.token.kind == .punctuator .braceClose then
    let (token, after) := state.before.rescanTemplate state.token.onNewLine
    .done () { state with token, after }
  else .done () state

inductive Round (σ α : Type) where
  | again (state : σ)
  | finish (value : α)

def repeatRounds {σ α : Type} (round : σ → Parser (Round σ α)) : Nat → σ → Parser α
  | 0, _ => unexpected
  | steps + 1, state => do
    match ← round state with
    | .again next => repeatRounds round steps next
    | .finish value => return value

/-- Repeats rounds until one finishes. A round takes a token at least, so the number of
characters bounds how many there are. -/
def loop {σ α : Type} (initial : σ) (round : σ → Parser (Round σ α)) : Parser α := do
  repeatRounds round (← setting).steps initial

def atListEnd (closing : Punctuator) : Parser Bool := do
  let kind ← kind
  return kind == .punctuator closing || kind == .endOfText || kind == .unknown

/-- Reads elements up to the closing token, which is left. -/
def elementsUntil (closing : Punctuator) (element : Parser Node) : Parser (List Node) :=
  loop [] fun (found : List Node) => do
    if ← atListEnd closing then return .finish found.reverse
    else return .again ((← element) :: found)

/-- Reads elements with commas between them up to the closing token, which is left. The
offset of a comma after the last element comes with them. -/
def separated (closing : Punctuator) (element : Parser Node) :
    Parser (List Node × Option Nat) := do
  if ← atListEnd closing then return ([], none)
  let first ← element
  loop [first] fun (found : List Node) => do
    if ← atListEnd closing then return .finish (found.reverse, none)
    let token ← token
    if token.kind == .punctuator .comma then
      advance
      if ← atMark closing then return .finish (found.reverse, some token.start)
      else return .again ((← element) :: found)
    else haltHere (.expectedListToken "," closing.text token.kind.text) token.start

end Parser

inductive Place where
  | list
  /-- The body of a loop, a branch, or a `with`. -/
  | single
  | labelled
deriving DecidableEq, Repr, Inhabited

/-- Only a list of statements may hold declarations of every kind. -/
def Place.isSingle : Place → Bool
  | .list => false
  | _ => true

/-- The rules through which the grammar is recursive. -/
inductive Nonterminal where
  | statement (place : Place)
  | expression
  | assignment
  /-- An operand with the operators that bind tighter than the given strength. -/
  | operation (strength : Nat)
  | unary
  | leftHandSide
  | newCallee
  | bindingPattern
deriving DecidableEq, Repr, Inhabited

/-- How a rule calls the rules below it. -/
abbrev Rules : Type := Nonterminal → Parser Node

end EditionGuard.Script.Grammar
