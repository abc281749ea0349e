import EditionGuard.Gate.RegexForm
import EditionGuard.Script.Tree

/-!
# What a program requires

`ownRequirements` lists what one node asks for, and `requirements` what a whole tree asks
for: a node before its parts, and the parts in order. An offset is that of the construct,
or that of the operator as it is found in the text between two parts.
-/

namespace EditionGuard.Gate

open EditionGuard.Script

/-- The offset of an operator between two offsets; the first of them if it is not found. -/
def operatorOffset (code : List Char) (start stop : Nat) (operator : String) : Nat :=
  match (Text.slice code start stop).bind (Text.findBytes operator.toList) with
  | some found => start + found
  | none => start

/-- The demand for a trailing comma, if there is one between two offsets. -/
def commaRequirement (code : List Char) (start stop : Nat) (feature : Feature) :
    List Requirement :=
  match (Text.slice code start stop).bind (Text.findBytes [',']) with
  | some found => [⟨start + found, feature⟩]
  | none => []

def attributeRequirement (parts : List Node) : List Requirement :=
  match parts.find? (·.construct == .withClause) with
  | some clause => [⟨clause.span.start, .importAttributes⟩]
  | none => []

/-- The demand for `?.` between an object and an offset, if the access is optional. -/
def optionalRequirement (code : List Char) (isOptional : Bool) (object : Node) (stop : Nat) :
    List Requirement :=
  if isOptional then
    [⟨operatorOffset code object.span.stop stop "?.", .optionalChaining⟩]
  else []

/-- The operator and the feature of an assignment that some edition brought. -/
def datedAssignment? : TokenKind → Option (String × Feature)
  | .punctuator .powerAssign => some ("**=", .powerAssignment)
  | .punctuator .logicalAndAssign => some ("&&=", .andAssignment)
  | .punctuator .logicalOrAssign => some ("||=", .orAssignment)
  | .punctuator .coalesceAssign => some ("??=", .coalesceAssignment)
  | _ => none

/-- Whether a number is written to base two or eight with a letter. -/
def isRadixLiteral : List Char → Bool
  | '0' :: letter :: _ => letter == 'b' || letter == 'B' || letter == 'o' || letter == 'O'
  | _ => false

/-- What a node itself asks for, in order; `depth` counts the functions around it. -/
def ownRequirements (code : List Char) (depth : Nat) : Node → List Requirement
  | .mk construct span parts =>
    let here (feature : Feature) : Requirement := ⟨span.start, feature⟩
    match construct, parts with
    | .hashbang, _ => [here .hashbang]
    | .variableDeclaration .functionScoped, _ => []
    | .variableDeclaration .reassignable, _ => [here .letDeclaration]
    | .variableDeclaration .constant, _ => [here .constDeclaration]
    | .variableDeclaration .disposable, _ => [here .usingDeclaration]
    | .variableDeclaration .asyncDisposable, _ => [here .usingDeclaration]
    | .functionLike true true, _ => [here .asyncGenerator]
    | .functionLike true false, _ => [here .asyncFunction]
    | .functionLike false true, _ => [here .generatorFunction]
    | .arrowFunction isAsync, [parameters, body] =>
      (if isAsync then [here .asyncArrow] else []) ++
        [⟨operatorOffset code parameters.span.stop body.span.start "=>", .arrowFunction⟩]
    | .classLike, _ => [here .classLike]
    | .field, _ => [here .classField]
    | .staticBlock, _ => [here .staticBlock]
    | .privateName, _ => [here .privateName]
    | .decorator, _ => [here .decorator]
    | .superReference, _ => [here .superReference]
    | .importDeclaration, _ => attributeRequirement parts ++ [here .importDeclaration]
    | .exportNamed, _ => attributeRequirement parts ++ [here .exportDeclaration]
    | .exportDefault, _ => [here .exportDeclaration]
    | .exportAll named, _ =>
      (if named then [here .exportAllAs] else []) ++
        attributeRequirement parts ++ [here .exportDeclaration]
    | .importCall, _ => [here .dynamicImport]
    | .importMeta, _ => [here .importMeta]
    | .newTarget, _ => [here .newTarget]
    | .arrayPattern, _ => [here .destructuring]
    | .objectPattern, _ =>
      (match parts.find? (·.construct == .restElement) with
        | some rest => [⟨rest.span.start, .objectRest⟩]
        | none => []) ++ [here .destructuring]
    | .formalParameters, _ =>
      if parts.any (·.construct == .restElement) then []
      else match parts.getLast? with
        | some last => commaRequirement code last.span.stop span.stop .parameterComma
        | none => []
    | .formalParameter true, _ => [here .defaultValue]
    | .assignmentPattern, _ => [here .defaultValue]
    | .restElement, _ => [here .restElement]
    | .arrayTarget, _ => [here .destructuringAssignment]
    | .objectTarget, _ =>
      (if parts.any (·.construct == .targetRest) then [here .objectRest] else []) ++
        [here .destructuringAssignment]
    | .objectLiteral, _ =>
      (parts.filter (·.construct == .spread)).map fun part =>
        ⟨part.span.start, .objectSpread⟩
    | .spread, _ => [here .spreadElement]
    | .property true _ _, _ => [here .computedProperty]
    | .property false true _, _ => [here .shorthandMethod]
    | .property false false true, _ => [here .shorthandProperty]
    | .forOfLoop awaits, _ => (if awaits then [here .forAwait] else []) ++ [here .forOf]
    | .catchClause false, _ => [here .optionalCatch]
    | .templateLiteral, _ => [here .template]
    | .yieldExpression, _ => [here .yieldOperator]
    | .awaitExpression, _ => [here (if depth = 0 then .topLevelAwait else .awaitOperator)]
    | .binary (.punctuator .power), [left, right] =>
      [⟨operatorOffset code left.span.stop right.span.start "**", .power⟩]
    | .logical (.punctuator .coalesce), [left, right] =>
      [⟨operatorOffset code left.span.stop right.span.start "??", .coalesce⟩]
    | .assignment operator, [_, value] =>
      match datedAssignment? operator with
      | some (text, feature) =>
        [⟨operatorOffset code span.start value.span.start text, feature⟩]
      | none => []
    | .memberAccess isOptional, [object, property] =>
      optionalRequirement code isOptional object property.span.start
    | .indexAccess isOptional, [object, index] =>
      optionalRequirement code isOptional object index.span.start
    | .privateAccess isOptional, [object, name] =>
      optionalRequirement code isOptional object name.span.start
    | .call isOptional, callee :: arguments =>
      optionalRequirement code isOptional callee span.stop ++
        match arguments.getLast? with
        | some last => commaRequirement code last.span.stop span.stop .argumentComma
        | none => []
    | .newExpression, _ :: arguments =>
      match arguments.getLast? with
      | some last => commaRequirement code last.span.stop span.stop .argumentComma
      | none => []
    | .numericLiteral raw, _ =>
      (if isRadixLiteral raw then [here .radixLiteral] else []) ++
        (if raw.contains '_' then [here .numericSeparator] else [])
    | .bigintLiteral raw, _ =>
      [here .bigint] ++ (if raw.contains '_' then [here .numericSeparator] else [])
    | .stringLiteral raw, _ =>
      if Text.occurs ['\\', 'u', '{'] raw then [here .codePointEscape] else []
    | .regexLiteral raw, _ => (RegexForm.features raw).map here
    | _, _ => []

/-- Constructs whose parts count as the inside of a function. -/
def isFunctionScope : Construct → Bool
  | .functionLike _ _ | .arrowFunction _ | .field | .staticBlock => true
  | _ => false

/-- The number of functions around the parts of a node. -/
def innerDepth (construct : Construct) (depth : Nat) : Nat :=
  if isFunctionScope construct then depth + 1 else depth

mutual

/-- Everything that a tree asks for: a node before its parts, the parts in order. -/
def requirements (code : List Char) (depth : Nat) : Node → List Requirement
  | .mk construct span parts =>
    ownRequirements code depth (.mk construct span parts) ++
      requirementsOfAll code (innerDepth construct depth) parts

def requirementsOfAll (code : List Char) (depth : Nat) : List Node → List Requirement
  | [] => []
  | node :: rest => requirements code depth node ++ requirementsOfAll code depth rest

end

end EditionGuard.Gate
