import EditionGuard.Script.Grammar.Name

/-!
# Binding patterns and parameters
-/

namespace EditionGuard.Script.Grammar

open EditionGuard.Script.Grammar.Parser

variable (rules : Rules)

def withDefault (start : Nat) (target : Node) : Parser Node := do
  if ← eatMark .assign then
    let value ← within (fun setting => { setting with inOperator := true }) (rules .assignment)
    node .assignmentPattern start [target, value]
  else return target

def patternWithDefault : Parser Node := do
  let start ← here
  withDefault rules start (← rules .bindingPattern)

/-- A rest element. A default is refused, but read. -/
def restElement : Parser Node := do
  let start ← here
  advance
  let argument ← patternWithDefault rules
  if argument.construct == .assignmentPattern then
    note .restInitializer argument.span.start
  node .restElement start [argument]

/-- Elements with commas between them, and a rest element that should be the last. -/
def elementsAndRest (closing : Punctuator) (element : Parser Node)
    (misplaced : GrammarError) : Parser (List Node × Option Node) := do
  let one (found : List Node) (rest : Option Node) :
      Parser (Round (List Node × Option Node) (List Node × Option Node)) := do
    match rest with
    | some earlier => note misplaced earlier.span.start
    | none => pure ()
    if ← atMark .ellipsis then return .again (found, some (← restElement rules))
    else return .again ((← element) :: found, rest)
  if ← atListEnd closing then return ([], none)
  let first : Round (List Node × Option Node) (List Node × Option Node) ← one [] none
  match first with
  | .finish value => return value
  | .again initial =>
    loop initial fun (found, rest) => do
      if ← atListEnd closing then return .finish (found.reverse, rest)
      let token ← token
      if token.kind == .punctuator .comma then
        advance
        if ← atMark closing then
          if rest.isSome then note .restTrailingComma token.start
          return .finish (found.reverse, rest)
        else one found rest
      else haltHere (.expectedListToken "," closing.text token.kind.text) token.start

/-- An element of an array pattern; nothing may stand between two commas. -/
def arrayPatternElement : Parser Node := do
  let start ← here
  if (← atMark .comma) || (← atMark .bracketClose) then return .leaf .elision ⟨start, start⟩
  else patternWithDefault rules

def arrayPattern : Parser Node := do
  let start ← here
  expectMark .bracketOpen
  let (elements, rest) ←
    elementsAndRest rules .bracketClose (arrayPatternElement rules) .restNotLast
  expectMark .bracketClose
  node .arrayPattern start (elements ++ rest.toList)

def bindingProperty : Parser Node := do
  let start ← here
  let token ← token
  let setting ← setting
  let (key, _) ← propertyKey rules
  if token.kind.isBindingName && !(← atMark .colon) then
    if setting.awaitOperator && token.kind == .keyword .awaitWord then
      note .awaitAsName token.start
    if setting.yieldOperator && token.kind == .keyword .yieldWord then
      note .yieldAsName token.start
    let value ← withDefault rules start (.leaf (.bindingName token.text) key.span)
    node .bindingProperty start [key, value]
  else
    expectMark .colon
    let value ← patternWithDefault rules
    node .bindingProperty start [key, value]

def objectPattern : Parser Node := do
  let start ← here
  expectMark .braceOpen
  let (properties, rest) ←
    elementsAndRest rules .braceClose (bindingProperty rules) .restNotLast
  expectMark .braceClose
  match rest with
  | some (.mk _ _ [argument]) =>
    match argument.construct with
    | .bindingName _ | .assignmentPattern => pure ()
    | _ => halt .invalidRestBinding argument.span.start
  | _ => pure ()
  node .objectPattern start (properties ++ rest.toList)

def bindingPattern : Parser Node := do
  if ← atMark .braceOpen then objectPattern rules
  else if ← atMark .bracketOpen then arrayPattern rules
  else bindingName

def decorator : Parser Node := do
  let start ← here
  advance
  let expression ← within (fun setting => { setting with inDecorator := true })
    (rules .leftHandSide)
  node .decorator start [expression]

def decorators : Parser (List Node) :=
  loop [] fun (found : List Node) => do
    if ← atMark .at then return .again ((← decorator rules) :: found)
    else return .finish found.reverse

def formalParameter : Parser Node := do
  let start ← here
  let decorations ← decorators rules
  let pattern ← rules .bindingPattern
  if ← eatMark .assign then
    let value ← within (fun setting => { setting with inOperator := true }) (rules .assignment)
    node (.formalParameter true) start (decorations ++ [pattern, value])
  else node (.formalParameter false) start (decorations ++ [pattern])

def formalParameters : Parser Node := do
  let start ← here
  expectMark .parenOpen
  let (items, rest) ←
    elementsAndRest rules .parenClose (formalParameter rules) .restParameterNotLast
  expectMark .parenClose
  node .formalParameters start (items ++ rest.toList)

end EditionGuard.Script.Grammar
