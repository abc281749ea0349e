import EditionGuard.Script.Grammar.Pattern

/-!
# Functions, methods and arrow functions
-/

namespace EditionGuard.Script.Grammar

open EditionGuard.Script.Grammar.Parser

variable (rules : Rules)

def statementsUntilBrace : Parser (List Node) :=
  loop [] fun (found : List Node) => do
    let kind ← kind
    if kind == .punctuator .braceClose || kind == .endOfText then return .finish found.reverse
    else return .again ((← rules (.statement .list)) :: found)

def insideFunction (isAsync isGenerator : Bool) (setting : Setting) : Setting :=
  { setting with
    inOperator := true
    yieldOperator := isGenerator
    awaitOperator := isAsync
    inDecorator := false
    outsideFunctions := false }

def functionBody : Parser Node := do
  let start ← here
  expectMark .braceOpen
  let statements ← within
    (fun setting => { setting with returnAllowed := true, outsideFunctions := false })
    (statementsUntilBrace rules)
  expectMark .braceClose
  node .functionBody start statements

def functionRest (start : Nat) (isAsync isGenerator : Bool) (name : Option Node) :
    Parser Node := do
  let rest ← within (insideFunction isAsync isGenerator) do
    let parameters ← formalParameters rules
    if ← atMark .braceOpen then return [parameters, ← functionBody rules]
    else halt .missingFunctionBody start
  node (.functionLike isAsync isGenerator) start (name.toList ++ rest)

def methodFunction (isAsync isGenerator : Bool) : Parser Node := do
  functionRest rules (← here) isAsync isGenerator none

/-- Which functions need a name. -/
inductive FunctionUse where
  | declaration
  | expression
  | defaultExport
deriving DecidableEq

/-- The name of a function. In an expression it lies inside the function already. -/
def functionName (use : FunctionUse) (isAsync isGenerator : Bool) : Parser (Option Node) := do
  let token ← token
  if token.kind.isBindingName then
    let setting ← setting
    if use == .expression then checkName isGenerator isAsync
    else checkName setting.yieldOperator setting.awaitOperator
    return some (← takeName .bindingName)
  else if use == .declaration then
    if token.kind == .punctuator .parenOpen then note .missingFunctionName token.start
    else if token.kind.isReserved then require .name
    return none
  else return none

def functionFromKeyword (start : Nat) (isAsync : Bool) (use : FunctionUse) : Parser Node := do
  expectWord .functionWord
  let isGenerator ← eatMark .star
  let name ← functionName use isAsync isGenerator
  functionRest rules start isAsync isGenerator name

def atAsyncFunction : Parser Bool := do
  if ← atWord .asyncWord then
    let next ← nextToken
    return next.kind == .keyword .functionWord && !next.onNewLine
  else return false

def parametersOf : Node → Option (Span × List Node)
  | .mk (.functionLike _ _) _ (.mk .formalParameters span items :: _) => some (span, items)
  | _ => none

def checkGetter (function : Node) : Parser Unit := do
  match parametersOf function with
  | some (span, _ :: _) => note .getterParameters span.start
  | _ => pure ()

def checkSetter (function : Node) : Parser Unit := do
  match parametersOf function with
  | some (span, items) =>
    match items.find? (·.construct == .restElement) with
    | some rest => note .setterRest rest.span.start
    | none => if items.length != 1 then note .setterParameters span.start
  | none => pure ()

/-- What is known about parentheses before they are read. -/
inductive ArrowGuess where
  | never
  | maybe
  | surely
deriving DecidableEq

/-- Words that announce a kind of parameter in related languages. -/
def isModifierWord : TokenKind → Bool
  | .keyword .abstractWord | .keyword .accessorWord | .keyword .declareWord
  | .keyword .outWord | .keyword .privateWord | .keyword .protectedWord
  | .keyword .publicWord | .keyword .readonlyWord | .keyword .staticWord
  | .keyword .overrideWord => true
  | _ => false

/-- Guesses from the tokens after an opening parenthesis, perhaps after `async`. -/
def guessArrowInside : Parser ArrowGuess := do
  if ← atWord .asyncWord then
    advance
    if (← onNewLine) || !(← atMark .parenOpen) then return .never
  advance
  let second ← kind
  if second == .punctuator .parenClose then
    advance
    let after ← kind
    return if after == .punctuator .arrow || after == .punctuator .colon ||
      after == .punctuator .braceOpen then .surely else .never
  else if second == .punctuator .bracketOpen || second == .punctuator .braceOpen then
    return .maybe
  else if second == .punctuator .ellipsis then return .surely
  else if isModifierWord second && (← nextToken).kind.isPlainName then return .surely
  else if !second.isBindingName && second != .keyword .thisWord then return .never
  else
    advance
    match ← kind with
    | .punctuator .colon => return .surely
    | .punctuator .question =>
      advance
      let after ← kind
      return if after == .punctuator .colon || after == .punctuator .comma ||
        after == .punctuator .assign || after == .punctuator .parenClose then .surely
        else .never
    | .punctuator .comma | .punctuator .assign | .punctuator .parenClose => return .maybe
    | _ => return .never

/-- Guesses whether an arrow function with parentheses begins here. -/
def guessArrow : Parser ArrowGuess := do
  let kind ← kind
  if kind == .punctuator .parenOpen || kind == .keyword .asyncWord then
    fun setting state =>
      match guessArrowInside setting state with
      | .done guess _ => .done guess state
      | .halted _ _ => .done .never state
  else return .never

/-- The arrow, which must stand on the line of what precedes it. -/
def arrow : Parser Unit := do
  let token ← token
  if token.onNewLine then note .lineEndBeforeArrow token.start
  expectMark .arrow

def arrowBody (isAsync : Bool) : Parser Node := do
  let inner (setting : Setting) : Setting :=
    { setting with
      yieldOperator := false, awaitOperator := isAsync, outsideFunctions := false }
  if ← atMark .braceOpen then
    within (fun setting => { inner setting with inOperator := true, inDecorator := false })
      (functionBody rules)
  else within inner (rules .assignment)

/-- Parameters in parentheses, perhaps after `async`, and the arrow. -/
def arrowHead : Parser (Node × Bool) := do
  let isAsync ← eat (.keyword .asyncWord)
  let parameters ← within
    (fun setting => { setting with
      inOperator := true, awaitOperator := setting.awaitOperator || isAsync })
    (formalParameters rules)
  arrow
  return (parameters, isAsync)

def arrowFromHead (start : Nat) (head : Node × Bool) : Parser Node := do
  let body ← arrowBody rules head.2
  node (.arrowFunction head.2) start [head.1, body]

/-- An arrow function whose only parameter is a name that was read already. -/
def arrowFromName (start : Nat) (isAsync : Bool) (name : Node) : Parser Node := do
  let parameter : Node := .mk (.formalParameter false) name.span
    [.leaf (match name.construct with
      | .nameReference text => .bindingName text
      | construct => construct) name.span]
  let parameters : Node := .mk .formalParameters name.span [parameter]
  arrow
  let body ← arrowBody rules isAsync
  node (.arrowFunction isAsync) start [parameters, body]

/-- An arrow function with parentheses, if one begins here. Where the first tokens leave it
open, the parameters and the arrow are tried. -/
def arrowWithParentheses : Parser (Option Node) := do
  let start ← here
  match ← guessArrow with
  | .never => return none
  | .surely => return some (← arrowFromHead rules start (← arrowHead rules))
  | .maybe =>
    if (← state).plainParentheses.contains start then return none
    let head ← orUndo (some <$> arrowHead rules) (pure none)
    match head with
    | some head => return some (← arrowFromHead rules start head)
    | none =>
      modify fun state => { state with plainParentheses := start :: state.plainParentheses }
      return none

def atAsyncNameArrow : Parser Bool := do
  if ← atWord .asyncWord then
    lookahead do
      advance
      if (← onNewLine) || !(← kind).isBindingName then return false
      advance
      atMark .arrow
  else return false

end EditionGuard.Script.Grammar
