import EditionGuard.Script.Token

/-!
# Syntax trees

The tree of a program is a rose tree: every node carries the construct it stands for, the
bytes it covers, and its parts in source order.
-/

namespace EditionGuard.Script

/-- A stretch of source bytes from `start` up to, not including, `stop`. -/
structure Span where
  start : Nat
  stop : Nat
deriving DecidableEq, Repr, Inhabited

/-- How the names of a declaration are bound. -/
inductive DeclarationKind where
  | functionScoped
  | reassignable
  | constant
  | disposable
  | asyncDisposable
deriving DecidableEq, Repr, Inhabited

/-- `let`, `const` and the two `using` forms bind in the nearest block. -/
def DeclarationKind.isLexical : DeclarationKind → Bool
  | .functionScoped => false
  | _ => true

/-- The constructs of the language. The parts of a node stand in source order; where a
construct names them, they are listed with it. -/
inductive Construct where
  /-- The statements of a whole source text, after its hashbang. -/
  | program
  | hashbang
  | block
  | emptyStatement
  | expressionStatement
  | ifStatement
  | doWhileLoop
  | whileLoop
  | forLoop
  | forInLoop
  /-- Parts: target, iterated value, body. -/
  | forOfLoop (awaits : Bool)
  | continueStatement
  | breakStatement
  | returnStatement
  | withStatement
  | switchStatement
  | switchCase
  | throwStatement
  | tryStatement
  | catchClause (hasParameter : Bool)
  | debuggerStatement
  | labelledStatement
  | variableDeclaration (kind : DeclarationKind)
  | declarator
  /-- Parts: an optional name, parameters, body. -/
  | functionLike (isAsync isGenerator : Bool)
  /-- Parts: parameters, body. -/
  | arrowFunction (isAsync : Bool)
  /-- Parts: parameters, then an optional rest element. -/
  | formalParameters
  | formalParameter (hasDefault : Bool)
  | functionBody
  | classLike
  | classBody
  | method
  | field
  | accessorField
  | staticBlock
  | decorator
  | importDeclaration
  | importSpecifier
  | exportNamed
  | exportDefault
  | exportAll (named : Bool)
  | exportSpecifier
  | withClause
  | importAttribute
  | bindingName (name : List Char)
  | arrayPattern
  | objectPattern
  | bindingProperty
  | assignmentPattern
  | restElement
  | arrayTarget
  | objectTarget
  | targetWithDefault
  | targetProperty
  | targetRest
  | nameReference (name : List Char)
  /-- A name that is no variable: a property, a label, an imported or exported name. -/
  | plainName (name : List Char)
  | privateName
  | thisExpression
  | nullLiteral
  | booleanLiteral
  | numericLiteral (raw : List Char)
  | bigintLiteral (raw : List Char)
  | stringLiteral (raw : List Char)
  | regexLiteral (raw : List Char)
  /-- Parts: the substituted expressions. -/
  | templateLiteral
  | taggedTemplate
  | arrayLiteral
  | elision
  | objectLiteral
  /-- Parts: key, value, and the default of a name that may yet turn out a target. -/
  | property (isComputed isMethod isShorthand : Bool)
  | spread
  | superReference
  | importCall
  | importMeta
  | newTarget
  /-- Parts: callee, arguments. -/
  | newExpression
  /-- Parts: callee, arguments. -/
  | call (isOptional : Bool)
  /-- Parts: object, property name. -/
  | memberAccess (isOptional : Bool)
  /-- Parts: object, index expression. -/
  | indexAccess (isOptional : Bool)
  /-- Parts: object, private name. -/
  | privateAccess (isOptional : Bool)
  | optionalChain
  | unary (operator : TokenKind)
  | update
  /-- Parts: left and right operand. -/
  | binary (operator : TokenKind)
  /-- Parts: left and right operand. -/
  | logical (operator : TokenKind)
  | privateMembership
  | conditional
  /-- Parts: target, value. -/
  | assignment (operator : TokenKind)
  | sequence
  | parenthesized
  | typeAssertion
  | awaitExpression
  | yieldExpression
deriving DecidableEq, Repr, Inhabited

inductive Node where
  | mk (construct : Construct) (span : Span) (parts : List Node)
deriving Repr, Inhabited

namespace Node

def construct : Node → Construct
  | mk construct _ _ => construct

def span : Node → Span
  | mk _ span _ => span

def parts : Node → List Node
  | mk _ _ parts => parts

def leaf (construct : Construct) (span : Span) : Node := mk construct span []

end Node

end EditionGuard.Script
