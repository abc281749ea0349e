import EditionGuard.Script.Grammar.Basic

/-!
# Expressions that turn out to be targets

What stands before an assignment operator is read as an expression first. Here such a tree
is turned into the target it stands for, or refused.
-/

namespace EditionGuard.Script.Grammar

open EditionGuard.Script.Grammar.Parser

/-- A shorthand property with a default has found its place. -/
def closeDefault (start : Nat) : Parser Unit :=
  modify fun state => { state with openDefaults := state.openDefaults.filter (· != start) }

/-- A rest element may not be followed by a comma. -/
def checkRestComma (literalStart : Nat) : Parser Unit := do
  match (← state).trailingCommas.find? (·.1 == literalStart) with
  | some (_, offset) => note .restTrailingComma offset
  | none => pure ()

def simpleTarget : Node → Parser Node
  | .mk (.nameReference name) span parts => return .mk (.nameReference name) span parts
  | .mk (.memberAccess isOptional) span parts => return .mk (.memberAccess isOptional) span parts
  | .mk (.indexAccess isOptional) span parts => return .mk (.indexAccess isOptional) span parts
  | .mk (.privateAccess isOptional) span parts =>
    return .mk (.privateAccess isOptional) span parts
  | .mk .typeAssertion span parts => return .mk .typeAssertion span parts
  | .mk .parenthesized span [inner] =>
    match inner.construct with
    | .arrayLiteral | .objectLiteral => halt .invalidTarget span.start
    | _ => simpleTarget inner
  | .mk _ span _ => halt .invalidTarget span.start

mutual

def toTarget : Node → Parser Node
  | .mk .arrayLiteral span parts => do
    return .mk .arrayTarget span (← toElementTargets span.start parts)
  | .mk .objectLiteral span parts => do
    return .mk .objectTarget span (← toPropertyTargets span.start parts)
  | .mk construct span parts => simpleTarget (.mk construct span parts)

def toTargetWithDefault : Node → Parser Node
  | .mk (.assignment operator) span parts => do
    if operator != .punctuator .assign then note .invalidTargetDefault span.start
    return .mk .targetWithDefault span parts
  | .mk .arrayLiteral span parts => do
    return .mk .arrayTarget span (← toElementTargets span.start parts)
  | .mk .objectLiteral span parts => do
    return .mk .objectTarget span (← toPropertyTargets span.start parts)
  | .mk construct span parts => simpleTarget (.mk construct span parts)

/-- The targets of an array: the last element may take the rest. -/
def toElementTargets (literalStart : Nat) : List Node → Parser (List Node)
  | [] => return []
  | .mk .spread span [argument] :: rest => do
    if rest.isEmpty then
      let target ← toTarget argument
      checkRestComma literalStart
      return [.mk .targetRest span [target]]
    else halt .spreadNotLast span.start
  | .mk .elision span parts :: rest => do
    return .mk .elision span parts :: (← toElementTargets literalStart rest)
  | element :: rest => do
    let target ← toTargetWithDefault element
    return target :: (← toElementTargets literalStart rest)

/-- The targets of an object: the last property may take the rest. -/
def toPropertyTargets (literalStart : Nat) : List Node → Parser (List Node)
  | [] => return []
  | .mk .spread span [argument] :: rest => do
    if rest.isEmpty then
      match argument.construct with
      | .arrayLiteral | .objectLiteral => halt .invalidRestTarget argument.span.start
      | _ =>
        let target ← toTarget argument
        checkRestComma literalStart
        return [.mk .targetRest span [target]]
    else halt .spreadNotLast span.start
  | .mk (.property _ _ true) span (_ :: value :: default) :: rest => do
    closeDefault span.start
    let target : Node := .mk .targetProperty span (value :: default)
    return target :: (← toPropertyTargets literalStart rest)
  | .mk (.property _ _ false) span [key, value] :: rest => do
    let target ← toTargetWithDefault value
    let property : Node := .mk .targetProperty span [key, target]
    return property :: (← toPropertyTargets literalStart rest)
  | element :: _ => halt .invalidTarget element.span.start

end

end EditionGuard.Script.Grammar
