import EditionGuard.Script.Grammar.Function

/-!
# Classes
-/

namespace EditionGuard.Script.Grammar

open EditionGuard.Script.Grammar.Parser

variable (rules : Rules)

/-- Words before a class element, with their places. -/
structure Modifiers where
  found : List (Keyword × Nat)

def Modifiers.has (modifiers : Modifiers) (word : Keyword) : Bool :=
  modifiers.found.any (·.1 == word)

def isElementModifier (word : Keyword) : Bool :=
  [Keyword.staticWord, .asyncWord, .accessorWord, .readonlyWord, .declareWord, .abstractWord,
    .overrideWord, .publicWord, .privateWord, .protectedWord].contains word

/-- The words before a class element. A second `static` is the name of the element. -/
def elementModifiers : Parser Modifiers :=
  loop (⟨[]⟩ : Modifiers) fun (modifiers : Modifiers) => do
    let token ← token
    match token.kind with
    | .keyword word =>
      if isElementModifier word && !(word == .staticWord && modifiers.has .staticWord) then
        if ← eatModifier word then
          return .again ⟨modifiers.found ++ [(word, token.start)]⟩
        else return .finish modifiers
      else return .finish modifiers
    | _ => return .finish modifiers

def checkModifiers (modifiers : Modifiers) (allowed : List Keyword) : Parser Unit :=
  match modifiers.found.find? fun (word, _) => !allowed.contains word with
  | some (word, start) => note (.modifierNotAllowed word.text) start
  | none => pure ()

def elementName : Parser (Node × Bool) := do
  let token ← token
  if token.kind == .privateName then
    let name ← privateNameNode
    if token.text == "constructor".toList then note .privateConstructor token.start
    return (name, false)
  else propertyKey rules

def isNamed (key : Node) (isComputed : Bool) (name : String) : Bool :=
  !isComputed && keyName? key == some name.toList

def getterOrSetter (start : Nat) (isGetter : Bool) (modifiers : Modifiers)
    (decorations : List Node) : Parser Node := do
  let (key, isComputed) ← elementName rules
  let function ← methodFunction rules false false
  checkModifiers modifiers [.staticWord]
  let isStatic := modifiers.has .staticWord
  if !isStatic && isNamed key isComputed "constructor" then
    note .accessorConstructor key.span.start
  if isStatic && isNamed key isComputed "prototype" then note .staticPrototype key.span.start
  if isGetter then checkGetter function else checkSetter function
  node .method start (decorations ++ [key, function])

def methodElement (start : Nat) (isGenerator : Bool) (key : Node) (isComputed : Bool)
    (modifiers : Modifiers) (decorations : List Node) : Parser Node := do
  let isAsync := modifiers.has .asyncWord
  let function ← methodFunction rules isAsync isGenerator
  checkModifiers modifiers [.staticWord, .asyncWord]
  let isStatic := modifiers.has .staticWord
  if !isStatic && isNamed key isComputed "constructor" then
    for decoration in decorations do note .misplacedDecorator decoration.span.start
    if isGenerator then note .generatorConstructor key.span.start
    if isAsync then note .asyncConstructor key.span.start
  if isStatic && isNamed key isComputed "prototype" then note .staticPrototype key.span.start
  node .method start (decorations ++ [key, function])

/-- A field. Inside its value neither `await` nor `yield` is an operator. -/
def fieldElement (start : Nat) (key : Node) (isComputed : Bool) (modifiers : Modifiers)
    (decorations : List Node) : Parser Node := do
  let value ← if ← eatMark .assign then do
      pure [← within (fun setting => { setting with
        inOperator := true, yieldOperator := false, awaitOperator := false,
        outsideFunctions := false }) (rules .assignment)]
    else pure []
  if ← canEndStatement then
    let _ ← eatMark .semicolon
  else require (.punctuator .semicolon)
  checkModifiers modifiers [.staticWord, .accessorWord]
  if isNamed key isComputed "constructor" then note .fieldConstructor key.span.start
  if modifiers.has .staticWord && isNamed key isComputed "prototype" then
    note .staticPrototype key.span.start
  let construct := if modifiers.has .accessorWord then .accessorField else .field
  node construct start (decorations ++ key :: value)

def staticBlock (start : Nat) : Parser Node := do
  advanceKeyword
  expectMark .braceOpen
  let statements ← within (fun setting => { setting with
    awaitOperator := true, yieldOperator := false, returnAllowed := false,
    outsideFunctions := false }) (statementsUntilBrace rules)
  expectMark .braceClose
  node .staticBlock start statements

def classElement : Parser Node := do
  let start ← here
  let decorations ← decorators rules
  if (← atWord .staticWord) && (← nextToken).kind == .punctuator .braceOpen then
    for decoration in decorations do note .misplacedDecorator decoration.span.start
    staticBlock rules start
  else
    let modifiers ← elementModifiers
    if ← eatModifier .getWord then getterOrSetter rules start true modifiers decorations
    else if ← eatModifier .setWord then getterOrSetter rules start false modifiers decorations
    else
      let kind ← kind
      if kind.isAnyName || kind == .string || kind.isNumber || kind == .privateName ||
          kind == .punctuator .star || kind == .punctuator .bracketOpen then
        let isGenerator ← eatMark .star
        let (key, isComputed) ← elementName rules
        if isGenerator || (← atMark .parenOpen) || (← atMark .less) then
          methodElement rules start isGenerator key isComputed modifiers decorations
        else fieldElement rules start key isComputed modifiers decorations
      else unexpected

/-- The elements of a class; semicolons between them mean nothing. -/
def classBody : Parser Node := do
  let start ← here
  expectMark .braceOpen
  let elements ← loop [] fun (found : List Node) => do
    if ← eatMark .semicolon then return .again found
    else if ← atListEnd .braceClose then return .finish found.reverse
    else return .again ((← classElement rules) :: found)
  expectMark .braceClose
  node .classBody start elements

def heritage : Parser (List Node) := do
  if ← eat (.keyword .extendsWord) then return [← rules .leftHandSide] else return []

def classFromKeyword (start : Nat) (decorations : List Node) : Parser Node := do
  advanceKeyword
  let kind ← kind
  let name ← if kind.isBindingName && kind != .keyword .implementsWord then do
      pure [← bindingName]
    else pure []
  let superclass ← heritage rules
  let body ← classBody rules
  node .classLike start (decorations ++ name ++ superclass ++ [body])

def classExpression (start : Nat) (decorations : List Node) : Parser Node :=
  classFromKeyword rules start decorations

end EditionGuard.Script.Grammar
