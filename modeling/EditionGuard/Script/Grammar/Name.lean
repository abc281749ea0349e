import EditionGuard.Script.Grammar.Basic

/-!
# Names and literals
-/

namespace EditionGuard.Script.Grammar

open EditionGuard.Script.Grammar.Parser

def takeName (build : List Char → Construct) : Parser Node := do
  let token ← token
  advance
  return .leaf (build token.text) ⟨token.start, token.stop⟩

def checkName (yieldOperator awaitOperator : Bool) : Parser Unit := do
  let token ← token
  if awaitOperator && token.kind == .keyword .awaitWord then note .awaitAsName token.start
  if yieldOperator && token.kind == .keyword .yieldWord then note .yieldAsName token.start

def nameReference : Parser Node := do
  let kind ← kind
  if kind.isReferenceName false false then
    let setting ← setting
    checkName setting.yieldOperator setting.awaitOperator
    if kind == .keyword .awaitWord then
      modify fun state => { state with sawAwaitName := true }
    takeName .nameReference
  else unexpected

def bindingName : Parser Node := do
  let token ← token
  if token.kind.isBindingName then
    let setting ← setting
    checkName setting.yieldOperator setting.awaitOperator
    if token.kind == .keyword .awaitWord then
      modify fun state => { state with sawAwaitName := true }
    takeName .bindingName
  else if token.kind.isReserved then
    halt (.reservedWordAsName token.kind.text) token.start
  else unexpected

def anyName : Parser Node := do
  if (← kind).isAnyName then takeName .plainName else unexpected

def labelName : Parser Node := do
  let setting ← setting
  if (← kind).isReferenceName setting.yieldOperator setting.awaitOperator then
    takeName .plainName
  else unexpected

def privateNameNode : Parser Node := takeName fun _ => .privateName

def literal (build : List Char → Construct) : Parser Node := takeName build

def stringLiteral : Parser Node := do
  if ← isAt .string then literal .stringLiteral else unexpected

/-- A number: big integers are told by their last character. -/
def numberLiteral : Parser Node := do
  if ← isAt (.number .bigint) then literal .bigintLiteral else literal .numericLiteral

def regexLiteral : Parser Node := do
  rereadRegex
  let state ← state
  if state.after.errors.isEmpty then
    let token := state.token
    let flags := (token.text.reverse.takeWhile (· != '/')).reverse
    if flags.contains 'u' && flags.contains 'v' then note .conflictingFlags token.start
    literal .regexLiteral
  else unexpected

def propertyKey (rules : Rules) : Parser (Node × Bool) := do
  let kind ← kind
  if kind == .string then return (← stringLiteral, false)
  else if kind.isNumber then return (← numberLiteral, false)
  else if kind == .punctuator .bracketOpen then
    advance
    let expression ← within (fun setting => { setting with inOperator := true })
      (rules .assignment)
    expectMark .bracketClose
    return (expression, true)
  else return (← anyName, false)

/-- The name a key stands for, if it is written out. -/
def keyName? : Node → Option (List Char)
  | .mk (.plainName name) _ _ => some name
  | .mk (.stringLiteral raw) _ _ => some (raw.drop 1).dropLast
  | _ => none

/-- Whether the current token can follow a word such as `static` or `get`. -/
def canFollowModifier : Parser Bool := do
  let kind ← kind
  return kind == .punctuator .bracketOpen || kind == .punctuator .braceOpen ||
    kind == .punctuator .star || kind == .punctuator .ellipsis || kind.isAnyName ||
    kind == .privateName || kind == .string || kind.isNumber

/-- Whether the current word belongs to what follows it. Only `static`, `get` and `set`
may stand on a line of their own. -/
def isModifierHere : Parser Bool := do
  let kind ← kind
  let mayEndLine := kind == .keyword .staticWord || kind == .keyword .getWord ||
    kind == .keyword .setWord
  lookahead do
    advance
    if mayEndLine then canFollowModifier
    else return !(← onNewLine) && (← canFollowModifier)

/-- Takes the given word if it belongs to what follows it. -/
def eatModifier (word : Keyword) : Parser Bool := do
  if (← atWord word) && (← isModifierHere) then
    advanceKeyword
    return true
  else return false

end EditionGuard.Script.Grammar
