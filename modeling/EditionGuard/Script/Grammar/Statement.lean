import EditionGuard.Script.Grammar.Expression

/-!
# Statements and declarations
-/

namespace EditionGuard.Script.Grammar

open EditionGuard.Script.Grammar.Parser

variable (rules : Rules)

def block : Parser Node := do
  let start ← here
  expectMark .braceOpen
  let statements ← statementsUntilBrace rules
  expectMark .braceClose
  node .block start statements

def emptyStatement : Parser Node := do
  let start ← here
  advance
  node .emptyStatement start []

def condition : Parser Node := do
  expectMark .parenOpen
  let expression ← inBrackets (rules .expression)
  expectMark .parenClose
  return expression

/-- A statement in the place of a body, where nothing may be declared. -/
def body : Parser Node := rules (.statement .single)

def ifStatement : Parser Node := do
  let start ← here
  advanceKeyword
  let test ← condition rules
  let consequent ← body rules
  if ← eat (.keyword .elseWord) then
    let alternative ← body rules
    node .ifStatement start [test, consequent, alternative]
  else node .ifStatement start [test, consequent]

def whileLoop : Parser Node := do
  let start ← here
  advanceKeyword
  let test ← condition rules
  let body ← body rules
  node .whileLoop start [test, body]

/-- A loop that tests last; a semicolon may be left out behind it. -/
def doWhileLoop : Parser Node := do
  let start ← here
  advanceKeyword
  let body ← body rules
  expectWord .whileWord
  let test ← condition rules
  let _ ← eatMark .semicolon
  node .doWhileLoop start [body, test]

def withStatement : Parser Node := do
  let start ← here
  advanceKeyword
  let object ← condition rules
  let body ← body rules
  node .withStatement start [object, body]

def expressionStatement (start : Nat) (expression : Node) : Parser Node := do
  endStatement
  node .expressionStatement start [expression]

/-! ## Declarations of variables -/

/-- A constant and a pattern need a value outside the heads of loops over values. -/
def checkInitializer (kind : DeclarationKind) : Node → Parser Unit
  | .mk .declarator _ [target] =>
    match target.construct with
    | .bindingName _ =>
      if kind == .constant then note .missingConstInitializer target.span.start else pure ()
    | _ => note .missingPatternInitializer target.span.start
  | _ => pure ()

def declarator : Parser Node := do
  let start ← here
  let target ← rules .bindingPattern
  if ← eatMark .assign then
    let value ← rules .assignment
    node .declarator start [target, value]
  else node .declarator start [target]

def declarators (check : Node → Parser Unit) : Parser (List Node) :=
  loop [] fun (found : List Node) => do
    let next ← declarator rules
    check next
    if ← eatMark .comma then return .again (next :: found)
    else return .finish (next :: found).reverse

def declarationKind : TokenKind → DeclarationKind
  | .keyword .letWord => .reassignable
  | .keyword .constWord => .constant
  | _ => .functionScoped

def variableDeclaration : Parser Node := do
  let start ← here
  let kind := declarationKind (← kind)
  advanceKeyword
  let found ← declarators rules (checkInitializer kind)
  endStatement
  node (.variableDeclaration kind) start found

def variableStatement (place : Place) : Parser Node := do
  let declaration ← variableDeclaration rules
  match declaration.construct with
  | .variableDeclaration kind =>
    if place.isSingle && kind.isLexical then
      note .declarationAsSingleStatement declaration.span.start
  | _ => pure ()
  return declaration

def usingDeclaration (inLoopHead : Bool) : Parser Node := do
  let start ← here
  let isAsync ← eat (.keyword .awaitWord)
  expectWord .usingWord
  let found ← declarators rules fun declaration => do
    match declaration with
    | .mk _ _ (target :: value) =>
      match target.construct with
      | .bindingName _ => pure ()
      | _ => note .usingPattern target.span.start
      if value.isEmpty && !inLoopHead then note .usingWithoutInitializer target.span.start
    | _ => pure ()
  if !inLoopHead then endStatement
  node (.variableDeclaration (if isAsync then .asyncDisposable else .disposable)) start found

def atUsing : Parser Bool := do
  if ← atWord .usingWord then
    let next ← nextToken
    return next.kind.isBindingName && !next.onNewLine
  else return false

def atAwaitUsing : Parser Bool := do
  if ← atWord .awaitWord then
    lookahead do
      advance
      return !(← onNewLine) && (← atUsing)
  else return false

/-- A statement that begins with `let`: as a rule a declaration. -/
def letStatement (place : Place) : Parser Node := do
  let start ← here
  let next := (← nextToken).kind
  let isTypeOperator := next == .keyword .asWord || next == .keyword .satisfiesWord
  if isAssignmentOperator next || ((strength? next).isSome && !isTypeOperator) then
    expressionStatement start (← rules .assignment)
  else if next == .punctuator .dot || next == .punctuator .parenOpen then
    expressionStatement start (← rules .expression)
  else if (place.isSingle && next != .punctuator .bracketOpen) ||
      next == .punctuator .semicolon then
    expressionStatement start (← nameReference)
  else variableStatement rules place

/-! ## Loops with heads -/

/-- Refuses the constants and patterns without values among some variables. -/
def checkInitializers (declaration : Node) : Parser Unit := do
  match declaration.construct with
  | .variableDeclaration kind => for part in declaration.parts do checkInitializer kind part
  | _ => pure ()

/-- The rest of a loop with three parts in its head, from the first semicolon on. -/
def forLoopRest (start : Nat) (awaits : Bool) (initial : List Node) : Parser Node := do
  expectMark .semicolon
  for part in initial do checkInitializers part
  let test ← if (← atMark .semicolon) || (← atMark .parenClose) then pure []
    else pure [← inBrackets (rules .expression)]
  expectMark .semicolon
  let update ← if ← atMark .parenClose then pure []
    else pure [← inBrackets (rules .expression)]
  expectMark .parenClose
  if awaits then note .forAwaitNotOf start
  let body ← body rules
  node .forLoop start (initial ++ test ++ update ++ [body])

def forInRest (start : Nat) (awaits : Bool) (target : Node) : Parser Node := do
  advanceKeyword
  let object ← inBrackets (rules .expression)
  expectMark .parenClose
  if awaits then note .forAwaitNotOf start
  let body ← body rules
  node .forInLoop start [target, object, body]

def forOfRest (start : Nat) (awaits : Bool) (target : Node) : Parser Node := do
  advanceKeyword
  let values ← inBrackets (rules .assignment)
  expectMark .parenClose
  let body ← body rules
  node (.forOfLoop awaits) start [target, values, body]

def forAfterDeclaration (start : Nat) (awaits : Bool) (declaration : Node) : Parser Node := do
  if ← atWord .inWord then forInRest rules start awaits declaration
  else if ← atWord .ofWord then forOfRest rules start awaits declaration
  else forLoopRest rules start awaits [declaration]

def letDeclares : Parser Bool := do
  let next := (← nextToken).kind
  return next.isBindingName || next == .punctuator .braceOpen ||
    next == .punctuator .bracketOpen

/-- Whether `using`, and a name other than `of`, begin a declaration here. -/
def usingDeclares : Parser Bool := do
  if ← atUsing then
    lookahead do
      advance
      if ← atWord .ofWord then
        advance
        return (← atMark .assign) || (← atMark .semicolon) || (← atMark .colon)
      else return true
  else return false

def forStatement : Parser Node := do
  let start ← here
  advanceKeyword
  let awaits ← atWord .awaitWord
  if awaits then
    checkAwait
    advance
  expectMark .parenOpen
  let withoutIn (setting : Setting) : Setting := { setting with inOperator := false }
  let kind ← kind
  if kind == .punctuator .semicolon || kind == .punctuator .parenClose then
    forLoopRest rules start awaits []
  else if kind == .keyword .varWord || kind == .keyword .constWord ||
      (kind == .keyword .letWord && (← letDeclares)) then
    let declarationStart ← here
    let declaration := declarationKind kind
    advanceKeyword
    let found ← within withoutIn (declarators rules fun _ => pure ())
    let head ← node (.variableDeclaration declaration) declarationStart found
    forAfterDeclaration rules start awaits head
  else if (← usingDeclares) || (← atAwaitUsing) then
    let head ← within withoutIn (usingDeclaration rules true)
    if ← atWord .inWord then
      note (if head.construct == .variableDeclaration .asyncDisposable
        then .awaitUsingOverKeys else .usingOverKeys) head.span.start
    forAfterDeclaration rules start awaits head
  else
    let headStart ← here
    let asyncOf := kind == .keyword .asyncWord && !(← token).escaped &&
      (← nextToken).kind == .keyword .ofWord
    let head ← within withoutIn (rules .expression)
    if ← atWord .inWord then forInRest rules start awaits (← toTarget head)
    else if ← atWord .ofWord then
      if asyncOf && !awaits then note .forOfAsync headStart
      forOfRest rules start awaits (← toTarget head)
    else forLoopRest rules start awaits [head]

/-! ## Jumps -/

/-- A jump out of a loop or to its next round, with or without a label. -/
def jump (construct : Construct) : Parser Node := do
  let start ← here
  advanceKeyword
  let label ← if ← canEndStatement then pure [] else pure [← labelName]
  endStatement
  node construct start label

def returnStatement : Parser Node := do
  let start ← here
  advanceKeyword
  let value ← if ← canEndStatement then pure []
    else pure [← within (fun setting => { setting with inOperator := true })
      (rules .expression)]
  endStatement
  if !(← setting).returnAllowed then note .returnOutsideFunction start
  node .returnStatement start value

def throwStatement : Parser Node := do
  let start ← here
  advanceKeyword
  if ← onNewLine then note .lineEndAfterThrow start
  let value ← rules .expression
  endStatement
  node .throwStatement start [value]

def debuggerStatement : Parser Node := do
  let start ← here
  advanceKeyword
  endStatement
  node .debuggerStatement start []

/-! ## Branches and handlers -/

def switchCase : Parser Node := do
  let start ← here
  let test ← if ← eat (.keyword .defaultWord) then pure []
    else if ← eat (.keyword .caseWord) then pure [← inBrackets (rules .expression)]
    else halt .missingSwitchClause start
  expectMark .colon
  let statements ← loop [] fun (found : List Node) => do
    let kind ← kind
    if kind == .keyword .caseWord || kind == .keyword .defaultWord ||
        kind == .punctuator .braceClose || kind == .endOfText then
      return .finish found.reverse
    else return .again ((← rules (.statement .list)) :: found)
  node .switchCase start (test ++ statements)

def switchStatement : Parser Node := do
  let start ← here
  advanceKeyword
  let subject ← condition rules
  expectMark .braceOpen
  let cases ← elementsUntil .braceClose (switchCase rules)
  expectMark .braceClose
  node .switchStatement start (subject :: cases)

def catchClause : Parser Node := do
  let start ← here
  advanceKeyword
  if ← eatMark .parenOpen then
    let parameter ← rules .bindingPattern
    expectMark .parenClose
    let body ← block rules
    node (.catchClause true) start [parameter, body]
  else
    let body ← block rules
    node (.catchClause false) start [body]

def tryStatement : Parser Node := do
  let start ← here
  advanceKeyword
  let body ← block rules
  let handler ← if ← atWord .catchWord then pure [← catchClause rules] else pure []
  let finalizer ← if ← eat (.keyword .finallyWord) then pure [← block rules] else pure []
  if handler.isEmpty && finalizer.isEmpty then
    note .missingCatchOrFinally body.span.stop
  node .tryStatement start (body :: handler ++ finalizer)

/-! ## Functions and classes as statements -/

def functionStatement (isAsync : Bool) (place : Place) : Parser Node := do
  let start ← here
  if isAsync then advanceKeyword
  let function ← functionFromKeyword rules start isAsync .declaration
  if place.isSingle then
    match function.construct with
    | .functionLike true _ => note .asyncFunctionAsSingleStatement start
    | .functionLike false true => note .generatorAsSingleStatement start
    | _ => pure ()
  return function

def classStatement (start : Nat) (decorations : List Node) (place : Place) : Parser Node := do
  let found ← classFromKeyword rules start decorations
  if place.isSingle then note .classAsSingleStatement start
  return found

def labelledOrExpression : Parser Node := do
  let start ← here
  let expression ← rules .expression
  match expression.construct with
  | .nameReference _ =>
    if ← eatMark .colon then
      let body ← rules (.statement .labelled)
      node .labelledStatement start [expression, body]
    else expressionStatement start expression
  | _ => expressionStatement start expression

end EditionGuard.Script.Grammar
