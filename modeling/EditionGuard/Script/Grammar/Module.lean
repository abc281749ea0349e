import EditionGuard.Script.Grammar.Statement

/-!
# Imports, exports, and the choice of statement
-/

namespace EditionGuard.Script.Grammar

open EditionGuard.Script.Grammar.Parser

variable (rules : Rules)

def stringContents (raw : List Char) : List Char := (raw.drop 1).dropLast

def unitEscape? : List Char → Option Nat
  | '\\' :: 'u' :: first :: second :: third :: fourth :: _ =>
    Text.hexadecimal? [first, second, third, fourth]
  | _ => none

/-- Whether a string literal holds half of a surrogate pair. -/
def hasLoneSurrogate : Nat → List Char → Bool
  | 0, _ => false
  | _, [] => false
  | steps + 1, char :: rest =>
    match unitEscape? (char :: rest) with
    | some unit =>
      let after := rest.drop 5
      if 0xD800 ≤ unit ∧ unit ≤ 0xDBFF then
        match unitEscape? after with
        | some low =>
          if 0xDC00 ≤ low ∧ low ≤ 0xDFFF then hasLoneSurrogate steps (after.drop 6) else true
        | none => true
      else if 0xDC00 ≤ unit ∧ unit ≤ 0xDFFF then true
      else hasLoneSurrogate steps after
    | none => hasLoneSurrogate steps (if char == '\\' then rest.drop 1 else rest)

/-- The name under which something is imported or exported: a name or a string. -/
def moduleName : Parser Node := do
  let token ← token
  if token.kind == .string then
    let found ← stringLiteral
    if hasLoneSurrogate token.text.length token.text then
      note .loneSurrogateName token.start
    return found
  else anyName

/-! ## Attributes -/

def importAttribute : Parser Node := do
  let start ← here
  let key ← if ← isAt .string then stringLiteral else anyName
  expectMark .colon
  let value ← stringLiteral
  node .importAttribute start [key, value]

/-- Attributes after a module's source. The clause begins at its brace. -/
def importAttributes : Parser (List Node) := do
  if (← atWord .withWord) || ((← atWord .assertWord) && !(← onNewLine)) then
    advanceKeyword
    let start ← here
    expectMark .braceOpen
    let (entries, _) ← separated .braceClose importAttribute
    expectMark .braceClose
    return [← node .withClause start entries]
  else return []

def moduleSource : Parser (List Node) := do
  let source ← stringLiteral
  return source :: (← importAttributes)

def fromClause : Parser (List Node) := do
  expectWord .fromWord
  moduleSource

/-! ## Imports -/

/-- One name in the braces of an import. Without `as` it must itself be able to name a
variable. -/
def importSpecifier : Parser Node := do
  let start ← here
  let token ← token
  let imported ← moduleName
  if ← eat (.keyword .asWord) then
    if ← isAt .string then halt .identifierExpected (← here)
    let name ← bindingName
    node .importSpecifier start [imported, name]
  else
    if token.kind == .string then halt .identifierExpected token.start
    else if token.kind.isReserved then
      halt (.reservedWordAsName token.kind.text) token.start
    else node .importSpecifier start [imported]

def namespaceImport : Parser Node := do
  let start ← here
  advance
  expectWord .asWord
  let name ← bindingName
  node .importSpecifier start [name]

def namedImports : Parser (List Node) := do
  expectMark .braceOpen
  let (found, _) ← separated .braceClose importSpecifier
  expectMark .braceClose
  return found

def importClause : Parser (List Node) := do
  if ← atMark .star then return [← namespaceImport]
  else if ← atMark .braceOpen then namedImports
  else unexpected

/-- Skips the word for a phase of loading, if it is one: `defer` before everything,
`source` before a name. -/
def importPhase : Parser Unit := do
  if ← atWord .deferWord then
    if (← nextToken).kind == .punctuator .star then advance
  else if ← atWord .sourceWord then
    let names ← lookahead do
      advance
      if ← atWord .fromWord then
        advance
        atWord .fromWord
      else return (← kind).isBindingName
    if names then advance

/-- Another name for a module or a part of one, which only a related language knows. It is
read from its equals sign on, and refused. -/
def importAlias (start : Nat) (name : List Node) : Parser Node := do
  advance
  if ← eat (.keyword .requireWord) then
    expectMark .parenOpen
    let _ ← stringLiteral
    expectMark .parenClose
  else
    let _ ← anyName
    loop () fun (_ : Unit) => do
      if ← eatMark .dot then
        let _ ← anyName
        return .again ()
      else return .finish ()
  endStatement
  note .importAlias start
  node .importDeclaration start name

def importDeclaration : Parser Node := do
  let start ← here
  advanceKeyword
  if ← isAt .string then
    let parts ← moduleSource
    endStatement
    node .importDeclaration start parts
  else
    importPhase
    let default ← if (← kind).isBindingName then do
        let nameStart ← here
        let name ← bindingName
        let specifier ← node .importSpecifier nameStart [name]
        pure [specifier]
      else pure []
    if !default.isEmpty && (← atMark .assign) then importAlias start default
    else
      let more ← if !default.isEmpty then
          if ← eatMark .comma then importClause else pure []
        else if (← atMark .star) || (← atMark .braceOpen) then importClause
        else pure []
      let parts := default ++ more ++ (← fromClause)
      endStatement
      node .importDeclaration start parts

/-! ## Exports -/

def exportSpecifier : Parser Node := do
  let start ← here
  let own ← moduleName
  if ← eat (.keyword .asWord) then
    let exported ← moduleName
    node .exportSpecifier start [own, exported]
  else node .exportSpecifier start [own]

/-- What is exported without a source must be a variable. -/
def checkLocalExport : Node → Parser Unit
  | .mk .exportSpecifier _ (own :: _) =>
    match own.construct with
    | .stringLiteral _ => note .exportedString own.span.start
    | .plainName name =>
      match Keyword.ofText? (String.ofList name) with
      | some word =>
        if word.isReserved || Keyword.strictReserved.contains word then
          note .exportedReservedWord own.span.start
        else pure ()
      | none => pure ()
    | _ => pure ()
  | _ => pure ()

def atLiteral : Parser Bool := do
  match ← kind with
  | .string | .number _ | .regex => return true
  | .keyword .nullWord | .keyword .trueWord | .keyword .falseWord => return true
  | _ => return false

/-- Names in braces, and the module that they may come from. The word `from` counts for
nothing unless a literal follows it. -/
def exportNames (start : Nat) : Parser Node := do
  expectMark .braceOpen
  let (specifiers, _) ← separated .braceClose exportSpecifier
  expectMark .braceClose
  if (← eat (.keyword .fromWord)) && (← atLiteral) then
    let source ← moduleSource
    endStatement
    node .exportNamed start (specifiers ++ source)
  else
    for specifier in specifiers do checkLocalExport specifier
    endStatement
    node .exportNamed start specifiers

def exportAll (start : Nat) : Parser Node := do
  advance
  let name ← if ← eat (.keyword .asWord) then pure [← moduleName] else pure []
  let source ← fromClause
  endStatement
  node (.exportAll !name.isEmpty) start (name ++ source)

/-- Decorators after `export`; there may be none if some came before. -/
def exportDecorators (before : List Node) : Parser (List Node) := do
  let after ← decorators rules
  match before, after with
  | _ :: _, decoration :: _ => note .decoratorsAroundExport decoration.span.start
  | _, _ => pure ()
  return before ++ after

def exportDefault (start : Nat) (before : List Node) : Parser Node := do
  let word ← anyName
  let decorations ← exportDecorators rules before
  let declarationStart ← here
  let value ←
    if ← atWord .classWord then classFromKeyword rules declarationStart decorations
    else if ← atWord .functionWord then
      functionFromKeyword rules declarationStart false .defaultExport
    else if ← atAsyncFunction then do
      advanceKeyword
      functionFromKeyword rules declarationStart true .defaultExport
    else do
      let value ← within (fun setting => { setting with inOperator := true })
        (rules .assignment)
      endStatement
      pure value
  node .exportDefault start [word, value]

def exportedDeclaration (start : Nat) (before : List Node) : Parser Node := do
  let decorations ← exportDecorators rules before
  let declarationStart ← here
  let kind ← kind
  let declaration ←
    if kind == .keyword .varWord || kind == .keyword .letWord ||
        kind == .keyword .constWord then variableDeclaration rules
    else if kind == .keyword .classWord then
      classFromKeyword rules declarationStart decorations
    else if kind == .keyword .functionWord then
      functionFromKeyword rules declarationStart false .declaration
    else if kind == .keyword .asyncWord then do
      advanceKeyword
      functionFromKeyword rules declarationStart true .declaration
    else if (← atUsing) || (← atAwaitUsing) then do
      note .usingExported declarationStart
      usingDeclaration rules false
    else unexpected
  node .exportNamed start [declaration]

def exportDeclaration (decorations : List Node) : Parser Node := do
  let start ← here
  advanceKeyword
  if ← atWord .defaultWord then exportDefault rules start decorations
  else if ← atMark .star then exportAll start
  else if ← atMark .braceOpen then exportNames start
  else exportedDeclaration rules start decorations

/-! ## Any statement -/

/-- A class after its decorators, perhaps exported. A class that is not exported begins at
its first decorator. -/
def decoratedStatement (place : Place) : Parser Node := do
  let start ← here
  let decorations ← decorators rules
  if ← atWord .exportWord then exportDeclaration rules decorations
  else if ← atWord .classWord then classStatement rules start decorations place
  else unexpected

def statement (place : Place) : Parser Node := do
  let token ← token
  match token.kind with
  | .punctuator .braceOpen => block rules
  | .punctuator .semicolon => emptyStatement
  | .punctuator .at => decoratedStatement rules place
  | .keyword .ifWord => ifStatement rules
  | .keyword .doWord => doWhileLoop rules
  | .keyword .whileWord => whileLoop rules
  | .keyword .forWord => forStatement rules
  | .keyword .continueWord => jump .continueStatement
  | .keyword .breakWord => jump .breakStatement
  | .keyword .withWord => withStatement rules
  | .keyword .switchWord => switchStatement rules
  | .keyword .throwWord => throwStatement rules
  | .keyword .tryWord => tryStatement rules
  | .keyword .debuggerWord => debuggerStatement
  | .keyword .classWord => classStatement rules token.start [] place
  | .keyword .exportWord => exportDeclaration rules []
  | .keyword .returnWord => returnStatement rules
  | .keyword .varWord => variableStatement rules place
  | .keyword .constWord => variableStatement rules place
  | .keyword .functionWord => functionStatement rules false place
  | .keyword .letWord =>
    if token.escaped then labelledOrExpression rules else letStatement rules place
  | .keyword .asyncWord =>
    if ← atAsyncFunction then functionStatement rules true place
    else labelledOrExpression rules
  | .keyword .importWord =>
    let next := (← nextToken).kind
    if next == .punctuator .dot || next == .punctuator .parenOpen then
      labelledOrExpression rules
    else importDeclaration
  | .keyword .usingWord =>
    if ← atUsing then usingDeclaration rules false else labelledOrExpression rules
  | .keyword .awaitWord =>
    if ← atAwaitUsing then usingDeclaration rules false else labelledOrExpression rules
  | _ => labelledOrExpression rules

end EditionGuard.Script.Grammar
