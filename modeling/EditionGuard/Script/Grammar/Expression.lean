import EditionGuard.Script.Grammar.Function
import EditionGuard.Script.Grammar.Target
import EditionGuard.Script.Grammar.Class

/-!
# Expressions
-/

namespace EditionGuard.Script.Grammar

open EditionGuard.Script.Grammar.Parser

variable (rules : Rules)

def inBrackets {α : Type} (parser : Parser α) : Parser α :=
  within (fun setting => { setting with inOperator := true, inDecorator := false }) parser

/-! ## Literals with parts -/

def spreadElement : Parser Node := do
  let start ← here
  advance
  let argument ← rules .assignment
  node .spread start [argument]

/-- Keeps the place of a comma at the end of a list, which matters if the list becomes a
pattern. -/
def noteTrailingComma (start : Nat) (comma : Option Nat) : Parser Unit :=
  match comma with
  | some offset => modify fun state =>
      { state with trailingCommas := (start, offset) :: state.trailingCommas }
  | none => pure ()

def arrayElement : Parser Node := do
  let start ← here
  if ← atMark .comma then return .leaf .elision ⟨start, start⟩
  else if ← atMark .ellipsis then spreadElement rules
  else rules .assignment

def arrayLiteral : Parser Node := do
  let start ← here
  advance
  let (elements, comma) ← inBrackets (separated .bracketClose (arrayElement rules))
  noteTrailingComma start comma
  expectMark .bracketClose
  node .arrayLiteral start elements

/-- A property of an object: an accessor, a method, a shorthand name, or a key and value. -/
def objectProperty : Parser Node := do
  let start ← here
  if ← eatModifier .getWord then
    let (key, isComputed) ← propertyKey rules
    let function ← methodFunction rules false false
    checkGetter function
    node (.property isComputed false false) start [key, function]
  else if ← eatModifier .setWord then
    let (key, isComputed) ← propertyKey rules
    let function ← methodFunction rules false false
    checkSetter function
    node (.property isComputed false false) start [key, function]
  else
    let isAsync ← eatModifier .asyncWord
    let isGenerator ← eatMark .star
    let first ← token
    let setting ← setting
    let (key, isComputed) ← propertyKey rules
    if isAsync || isGenerator || (← atMark .parenOpen) || (← atMark .less) then
      let function ← methodFunction rules isAsync isGenerator
      node (.property isComputed true false) start [key, function]
    else if first.kind.isReferenceName setting.yieldOperator setting.awaitOperator &&
        !(← atMark .colon) then
      let value : Node := .leaf (.nameReference first.text) key.span
      if ← eatMark .assign then
        let default ← rules .assignment
        modify fun state => { state with openDefaults := start :: state.openDefaults }
        node (.property false false true) start [key, value, default]
      else node (.property false false true) start [key, value]
    else
      expectMark .colon
      let value ← rules .assignment
      node (.property isComputed false false) start [key, value]

def objectElement : Parser Node := do
  if ← atMark .ellipsis then spreadElement rules else objectProperty rules

def objectLiteral : Parser Node := do
  let start ← here
  advance
  let (properties, comma) ← inBrackets (separated .braceClose (objectElement rules))
  noteTrailingComma start comma
  expectMark .braceClose
  node .objectLiteral start properties

/-- Takes a template piece. Outside tagged templates every escape needs a meaning. -/
def templatePiece (isTagged : Bool) : Parser Unit := do
  let token ← token
  advance
  if token.badEscape && !isTagged then note .badTemplateEscape (token.start + 1)

def substitution : Parser Node := do
  let expression ← inBrackets (rules .expression)
  rereadTemplate
  return expression

def templateLiteral (isTagged : Bool) : Parser Node := do
  let start ← here
  if ← isAt (.template .whole) then
    templatePiece isTagged
    node .templateLiteral start []
  else
    templatePiece isTagged
    let first ← substitution rules
    let expressions ← loop [first] fun (found : List Node) => do
      if ← isAt (.template .middle) then
        templatePiece isTagged
        return .again ((← substitution rules) :: found)
      else
        require (.template .tail)
        templatePiece isTagged
        return .finish found.reverse
    node .templateLiteral start expressions

def atTemplate : Parser Bool := do
  return (← isAt (.template .whole)) || (← isAt (.template .head))

def parenthesized : Parser Node := do
  let start ← here
  advance
  let inner ← here
  let (expressions, comma) ← inBrackets (separated .parenClose (rules .assignment))
  match comma with
  | some offset => halt .trailingCommaInParentheses offset
  | none => pure ()
  let innerSpan ← spanFrom inner
  expectMark .parenClose
  match expressions with
  | [] => halt .emptyParentheses start
  | [expression] => node .parenthesized start [expression]
  | several => node .parenthesized start [.mk .sequence innerSpan several]

/-! ## Primary expressions -/

/-- `import.meta`, `import(…)` and the forms of the latter that name a phase. -/
def importCall (start : Nat) : Parser Node := do
  expectMark .parenOpen
  if ← eatMark .parenClose then halt .importWithoutSpecifier start
  inBrackets do
    let specifier ← rules .assignment
    let options ← if (← eatMark .comma) && !(← atMark .parenClose) then do
        pure [← rules .assignment]
      else pure []
    let _ ← eatMark .comma
    if ← eatMark .parenClose then node .importCall start (specifier :: options)
    else halt .importArguments start

def importExpression : Parser Node := do
  let start ← here
  advanceKeyword
  if ← eatMark .dot then
    if ← eat (.keyword .metaWord) then
      modify fun state => { state with sawImportMeta := true }
      node .importMeta start []
    else if (← eat (.keyword .sourceWord)) || (← eat (.keyword .deferWord)) then
      importCall rules start
    else halt .unknownImportProperty start
  else if ← atMark .parenOpen then importCall rules start
  else unexpected

def superReference : Parser Node := do
  let start ← here
  advanceKeyword
  if !((← atMark .dot) || (← atMark .bracketOpen) || (← atMark .parenOpen)) then
    note .bareSuper start
  node .superReference start []

def argument : Parser Node := do
  if ← atMark .ellipsis then spreadElement rules else rules .assignment

def arguments : Parser (List Node) := do
  expectMark .parenOpen
  let (found, _) ← inBrackets (separated .parenClose (argument rules))
  expectMark .parenClose
  return found

def newExpression : Parser Node := do
  let start ← here
  advanceKeyword
  if ← eatMark .dot then
    if ← eat (.keyword .targetWord) then node .newTarget start []
    else halt .unknownNewProperty start
  else
    let calleeStart ← here
    let callee ← rules .newCallee
    if ← atMark .optionalDot then halt .optionalChainAfterNew (← here)
    let found ← if ← atMark .parenOpen then arguments rules else pure []
    if callee.construct == .importCall then note .newWithImport calleeStart
    node .newExpression start (callee :: found)

def primary : Parser Node := do
  let token ← token
  match token.kind with
  | .name => nameReference
  | .string => stringLiteral
  | .number _ => numberLiteral
  | .template .whole | .template .head => templateLiteral rules false
  | .punctuator .bracketOpen => arrayLiteral rules
  | .punctuator .braceOpen => objectLiteral rules
  | .punctuator .parenOpen => parenthesized rules
  | .punctuator .slash | .punctuator .slashAssign => regexLiteral
  | .punctuator .at =>
    let decorations ← decorators rules
    if ← atWord .classWord then classExpression rules token.start decorations
    else unexpected
  | .keyword .functionWord => functionFromKeyword rules token.start false .expression
  | .keyword .classWord => classExpression rules token.start []
  | .keyword .thisWord =>
    advanceKeyword
    node .thisExpression token.start []
  | .keyword .nullWord =>
    advanceKeyword
    node .nullLiteral token.start []
  | .keyword .trueWord | .keyword .falseWord =>
    advanceKeyword
    node .booleanLiteral token.start []
  | .keyword .newWord => newExpression rules
  | .keyword .superWord => superReference
  | .keyword .importWord => importExpression rules
  | .keyword .asyncWord =>
    if ← atAsyncFunction then
      advanceKeyword
      functionFromKeyword rules token.start true .expression
    else nameReference
  | _ => nameReference

/-! ## Access and calls -/

/-- An expression with what was read after it, and whether `?.` occurred. -/
structure Chain where
  expression : Node
  isOptional : Bool

def dotAccess (start : Nat) (object : Node) (isOptional : Bool) : Parser Node := do
  if ← isAt .privateName then
    let name ← privateNameNode
    node (.privateAccess isOptional) start [object, name]
  else
    let name ← anyName
    node (.memberAccess isOptional) start [object, name]

def bracketAccess (start : Nat) (object : Node) (isOptional : Bool) : Parser Node := do
  advance
  let index ← inBrackets (rules .expression)
  expectMark .bracketClose
  node (.indexAccess isOptional) start [object, index]

/-- Whether `?.` is followed by a property, an index or a template. -/
def atOptionalAccess : Parser Bool := do
  if ← atMark .optionalDot then
    let next ← nextToken
    return next.kind.isAnyName || next.kind == .privateName ||
      next.kind == .punctuator .bracketOpen || next.kind == .template .whole ||
      next.kind == .template .head
  else return false

def taggedTemplate (start : Nat) (chain : Chain) : Parser Chain := do
  let templateStart ← here
  let template ← templateLiteral rules true
  if chain.isOptional then note .templateInOptionalChain templateStart
  return { chain with expression := ← node .taggedTemplate start [chain.expression, template] }

/-- Property accesses and templates after an expression that began at `start`. -/
def accesses (start : Nat) (optionalAllowed : Bool) (chain : Chain) : Parser Chain := do
  loop chain fun (chain : Chain) => do
    let inDecorator := (← setting).inDecorator
    if optionalAllowed && (← atOptionalAccess) then
      advance
      let chain := { chain with isOptional := true }
      if ← atMark .bracketOpen then
        let access ← bracketAccess rules start chain.expression true
        return .again { chain with expression := access }
      else if ← atTemplate then return .again (← taggedTemplate rules start chain)
      else
        let access ← dotAccess start chain.expression true
        return .again { chain with expression := access }
    else if ← eatMark .dot then
      let access ← dotAccess start chain.expression false
      return .again { chain with expression := access }
    else if (← atMark .bracketOpen) && !inDecorator then
      let access ← bracketAccess rules start chain.expression false
      return .again { chain with expression := access }
    else if ← atTemplate then return .again (← taggedTemplate rules start chain)
    else return .finish chain

/-- What `new` is applied to: calls and `?.` end it. -/
def newCallee : Parser Node := do
  let start ← here
  let first ← primary rules
  return (← accesses rules start false ⟨first, false⟩).expression

def leftHandSide : Parser Node := do
  let start ← here
  let first ← primary rules
  let chain ← loop (⟨first, false⟩ : Chain) fun (chain : Chain) => do
    let chain ← accesses rules start true chain
    let isOptional ← eatMark .optionalDot
    let chain := { chain with isOptional := chain.isOptional || isOptional }
    if isOptional && (← atTemplate) then return .again (← taggedTemplate rules start chain)
    else if ← atMark .parenOpen then
      let found ← arguments rules
      let call ← node (.call isOptional) start (chain.expression :: found)
      return .again { chain with expression := call }
    else if isOptional then unexpected
    else return .finish chain
  if chain.isOptional then
    match chain.expression.construct with
    | .memberAccess _ | .indexAccess _ | .privateAccess _ | .call _ =>
      node .optionalChain start [chain.expression]
    | _ => return chain.expression
  else return chain.expression

/-! ## Unary and binary operators -/

def isUnaryOperator : TokenKind → Bool
  | .punctuator .plus | .punctuator .minus | .punctuator .bang | .punctuator .tilde
  | .keyword .typeofWord | .keyword .voidWord | .keyword .deleteWord => true
  | _ => false

def isUpdateOperator (kind : TokenKind) : Bool :=
  kind == .punctuator .increment || kind == .punctuator .decrement

/-- Whether the next token stands on the same line and begins an operand for certain. -/
def nextBeginsOperand (slashCounts : Bool) : Parser Bool := do
  let next ← nextToken
  return !next.onNewLine && (next.kind.isAnyName || next.kind.isNumber ||
    next.kind == .string ||
    (slashCounts && (next.kind == .punctuator .slash || next.kind == .punctuator .slashAssign)))

/-- Whether `await` is an operator here. Where it may be a name, only an operand that
follows on the line makes it one. -/
def atAwaitOperator : Parser Bool := do
  if ← atWord .awaitWord then
    let setting ← setting
    if setting.awaitOperator then return true
    else nextBeginsOperand (setting.goal == .script)
  else return false

/-- `await` is an operator in async functions and at the top of modules. -/
def checkAwait : Parser Unit := do
  let setting ← setting
  if !setting.awaitOperator then
    let start ← here
    if setting.goal == .unambiguous && setting.outsideFunctions then
      modify fun state =>
        { state with scriptErrors := ⟨.awaitOutsideAsync, start⟩ :: state.scriptErrors }
    else note .awaitOutsideAsync start

def awaitExpression : Parser Node := do
  let start ← here
  checkAwait
  advanceKeyword
  let argument ← within (fun setting => { setting with awaitOperator := true }) (rules .unary)
  node .awaitExpression start [argument]

def updateExpression : Parser Node := do
  let start ← here
  if isUpdateOperator (← kind) then
    advance
    let argument ← rules .unary
    let target ← simpleTarget argument
    node .update start [target]
  else if (← atMark .less) && (let next := (← nextToken).kind;
      next.isAnyName || next == .punctuator .greater) then
    halt .markupElement start
  else
    let operand ← leftHandSide rules
    if isUpdateOperator (← kind) && !(← onNewLine) then
      advance
      let target ← simpleTarget operand
      node .update start [target]
    else return operand

def unary : Parser Node := do
  let start ← here
  let kind ← kind
  if isUnaryOperator kind then
    advanceKeyword
    let argument ← rules .unary
    node (.unary kind) start [argument]
  else if ← atAwaitOperator then awaitExpression rules
  else updateExpression rules

def strength? : TokenKind → Option Nat
  | .punctuator .coalesce => some 1
  | .punctuator .logicalOr => some 2
  | .punctuator .logicalAnd => some 3
  | .punctuator .bitOr => some 4
  | .punctuator .bitXor => some 5
  | .punctuator .bitAnd => some 6
  | .punctuator .looseEqual | .punctuator .looseUnequal
  | .punctuator .strictEqual | .punctuator .strictUnequal => some 7
  | .punctuator .less | .punctuator .greater | .punctuator .lessEqual
  | .punctuator .greaterEqual | .keyword .instanceofWord | .keyword .inWord
  | .keyword .asWord | .keyword .satisfiesWord => some 8
  | .punctuator .shiftLeft | .punctuator .shiftRight | .punctuator .shiftRightUnsigned =>
    some 9
  | .punctuator .plus | .punctuator .minus => some 10
  | .punctuator .star | .punctuator .slash | .punctuator .percent => some 11
  | .punctuator .power => some 12
  | _ => none

/-- The strength of the one operator that groups to the right. -/
def powerStrength : Nat := 12

/-- Whether a token is an operator that may leave its right side alone. -/
def isLogicalOperator (kind : TokenKind) : Bool :=
  kind == .punctuator .coalesce || kind == .punctuator .logicalOr ||
    kind == .punctuator .logicalAnd

/-- Whether a node is an operation by `&&` or `||`. -/
def isPlainLogical (operand : Node) : Bool :=
  operand.construct == .logical (.punctuator .logicalOr) ||
    operand.construct == .logical (.punctuator .logicalAnd)

/-- Whether a node is an operation by such an operator. -/
def isLogical : Node → Bool
  | .mk (.logical _) _ _ => true
  | _ => false

/-- Skips what stands in brackets, up to the bracket that closes the one here. -/
def skipBrackets : Parser Unit := do
  loop 0 fun (depth : Nat) => do
    let kind ← kind
    if kind == .endOfText || kind == .unknown then unexpected
    else
      advance
      if kind == .punctuator .braceOpen || kind == .punctuator .bracketOpen ||
          kind == .punctuator .parenOpen then return .again (depth + 1)
      else if kind == .punctuator .braceClose || kind == .punctuator .bracketClose ||
          kind == .punctuator .parenClose then
        return if depth ≤ 1 then .finish () else .again (depth - 1)
      else return .again depth

/-- The name of a type, which this language has no use for. -/
def typeName : Parser Unit := do
  let kind ← kind
  let inBrackets := kind == .punctuator .braceOpen || kind == .punctuator .bracketOpen ||
    kind == .punctuator .parenOpen
  if inBrackets || kind.isAnyName || kind == .string || kind.isNumber then
    if inBrackets then skipBrackets else advance
    loop () fun (_ : Unit) => do
      if ← eatMark .dot then
        let _ ← anyName
        return .again ()
      else if (← atMark .bracketOpen) && !(← onNewLine) then
        advance
        expectMark .bracketClose
        return .again ()
      else return .finish ()
  else unexpected

def combine (start : Nat) (operator : TokenKind) (left right : Node) : Parser Node := do
  if isLogicalOperator operator then
    if operator == .punctuator .coalesce then
      let suspect := if isLogical right then right else left
      if isPlainLogical suspect then note .mixedCoalesce start
    node (.logical operator) start [left, right]
  else
    if operator == .punctuator .power then
      match left.construct with
      | .unary _ | .awaitExpression => note .unaryBeforePower left.span.start
      | _ => pure ()
    node (.binary operator) start [left, right]

/-- Operators that bind tighter than `strength`, after an operand that began at `start`. -/
def operationRest (start strength : Nat) (first : Node) : Parser Node := do
  loop first fun (left : Node) => do
    rereadGreater
    let operator ← kind
    match strength? operator with
    | none => return .finish left
    | some own =>
      let binds := if own == powerStrength then strength ≤ own else strength < own
      let inRefused := operator == .keyword .inWord && !(← setting).inOperator
      if !binds || inRefused then return .finish left
      else if operator == .keyword .asWord || operator == .keyword .satisfiesWord then
        if ← onNewLine then return .finish left
        else
          advanceKeyword
          typeName
          note (if operator == .keyword .asWord then .typeAssertion else .typeSatisfaction)
            start
          return .again (← node .typeAssertion start [left])
      else
        advanceKeyword
        let right ← rules (.operation own)
        return .again (← combine start operator left right)

/-- Operations between two operands that bind at least so strongly. -/
def operation (strength : Nat) : Parser Node := do
  let start ← here
  let first ← if (← setting).inOperator && (← isAt .privateName) then do
      let name ← privateNameNode
      expectWord .inWord
      let right ← rules (.operation 8)
      if right.construct == .privateMembership then halt .privateInPrivate right.span.start
      node .privateMembership start [name, right]
    else unary rules
  operationRest rules start strength first

/-! ## Assignments -/

def isAssignmentOperator : TokenKind → Bool
  | .punctuator .assign | .punctuator .plusAssign | .punctuator .minusAssign
  | .punctuator .starAssign | .punctuator .slashAssign | .punctuator .percentAssign
  | .punctuator .powerAssign | .punctuator .shiftLeftAssign
  | .punctuator .shiftRightAssign | .punctuator .shiftRightUnsignedAssign
  | .punctuator .bitAndAssign | .punctuator .bitOrAssign | .punctuator .bitXorAssign
  | .punctuator .logicalAndAssign | .punctuator .logicalOrAssign
  | .punctuator .coalesceAssign => true
  | _ => false

def atYieldOperator : Parser Bool := do
  if ← atWord .yieldWord then
    if (← setting).yieldOperator then return true else nextBeginsOperand false
  else return false

def endsYield : TokenKind → Bool
  | .endOfText | .punctuator .semicolon | .punctuator .braceClose | .punctuator .parenClose
  | .punctuator .bracketClose | .punctuator .colon | .punctuator .comma
  | .keyword .inWord => true
  | _ => false

def yieldExpression : Parser Node := do
  let start ← here
  advanceKeyword
  if !(← setting).yieldOperator then note .yieldOutsideGenerator start
  if ← onNewLine then node .yieldExpression start []
  else
    let delegates ← eatMark .star
    if delegates || !endsYield (← kind) then
      let argument ← within (fun setting => { setting with yieldOperator := true })
        (rules .assignment)
      node .yieldExpression start [argument]
    else node .yieldExpression start []

def conditionalRest (start : Nat) (condition : Node) : Parser Node := do
  if ← eatMark .question then
    let consequent ← within (fun setting => { setting with inOperator := true })
      (rules .assignment)
    expectMark .colon
    let alternative ← rules .assignment
    node .conditional start [condition, consequent, alternative]
  else return condition

def assignmentExpression : Parser Node := do
  let start ← here
  if ← atYieldOperator then yieldExpression rules
  else match ← arrowWithParentheses rules with
    | some found => return found
    | none =>
      if ← atAsyncNameArrow then
        advanceKeyword
        let name ← operation rules 0
        arrowFromName rules start true name
      else
        let left ← operation rules 0
        let kind ← kind
        match left.construct, kind with
        | .nameReference _, .punctuator .arrow => arrowFromName rules start false left
        | _, _ =>
          if isAssignmentOperator kind then
            let target ← toTarget left
            advance
            let value ← rules .assignment
            node (.assignment kind) start [target, value]
          else conditionalRest rules start left

def expression : Parser Node := do
  let start ← here
  let first ← within (fun setting => { setting with inDecorator := false })
    (rules .assignment)
  if ← atMark .comma then
    let several ← loop [first] fun (found : List Node) => do
      if ← eatMark .comma then return .again ((← rules .assignment) :: found)
      else return .finish found.reverse
    node .sequence start several
  else return first

end EditionGuard.Script.Grammar
