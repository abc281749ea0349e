/-!
# Grammar errors

The ways in which a source text is no program, each with its wording, and a diagnostic that
says where one arose.
-/

namespace EditionGuard.Script

/-- Why a source text is no program. -/
inductive GrammarError where
  | unexpectedToken
  | expectedToken (wanted found : String)
  | expectedListToken (separator closing found : String)
  | missingSemicolon
  | unterminatedString
  | unterminatedRegex
  | unterminatedComment
  | invalidCharacter (char : Char)
  | unexpectedEnd
  | invalidNumberEnd
  | invalidEscape
  | invalidUnicodeEscape
  | unexpectedFlag (flag : Char)
  | repeatedFlag (flag : Char)
  | conflictingFlags
  | escapedKeyword
  | flowFile
  | conflictMarker
  | badTemplateEscape
  | invalidTarget
  | invalidTargetDefault
  | spreadNotLast
  | restNotLast
  | restParameterNotLast
  | restTrailingComma
  | restInitializer
  | invalidRestTarget
  | invalidRestBinding
  | missingConstInitializer
  | missingPatternInitializer
  | usingWithoutInitializer
  | usingPattern
  | usingExported
  | usingOverKeys
  | awaitUsingOverKeys
  | coverInitializer
  | returnOutsideFunction
  | awaitOutsideAsync
  | awaitAsName
  | yieldAsName
  | yieldOutsideGenerator
  | forAwaitNotOf
  | forOfAsync
  | trailingCommaInParentheses
  | emptyParentheses
  | lineEndBeforeArrow
  | lineEndAfterThrow
  | missingFunctionName
  | missingFunctionBody
  | missingSwitchClause
  | missingCatchOrFinally
  | declarationAsSingleStatement
  | classAsSingleStatement
  | asyncFunctionAsSingleStatement
  | generatorAsSingleStatement
  | identifierExpected
  | reservedWordAsName (word : String)
  | mixedCoalesce
  | unaryBeforePower
  | typeAssertion
  | typeSatisfaction
  | importAlias
  | markupElement
  | templateInOptionalChain
  | optionalChainAfterNew
  | newWithImport
  | unknownNewProperty
  | unknownImportProperty
  | importWithoutSpecifier
  | importArguments
  | bareSuper
  | privateInPrivate
  | getterParameters
  | setterParameters
  | setterRest
  | privateConstructor
  | fieldConstructor
  | staticPrototype
  | accessorConstructor
  | asyncConstructor
  | generatorConstructor
  | modifierNotAllowed (modifier : String)
  | misplacedDecorator
  | decoratorsAroundExport
  | exportedReservedWord
  | exportedString
  | loneSurrogateName
  | duplicateExport (name : String)
  | duplicateDefaultExport
deriving DecidableEq, Repr, Inhabited

def GrammarError.message : GrammarError → String
  | .unexpectedToken => "Unexpected token"
  | .expectedToken wanted found => s!"Expected `{wanted}` but found `{found}`"
  | .expectedListToken separator closing found =>
    s!"Expected `{separator}` or `{closing}` but found `{found}`"
  | .missingSemicolon =>
    "Expected a semicolon or an implicit semicolon after a statement, but found none"
  | .unterminatedString => "Unterminated string"
  | .unterminatedRegex => "Unterminated regular expression"
  | .unterminatedComment => "Unterminated multiline comment"
  | .invalidCharacter char => s!"Invalid Character `{char}`"
  | .unexpectedEnd => "Unexpected end of file"
  | .invalidNumberEnd => "Invalid characters after number"
  | .invalidEscape => "Invalid escape sequence"
  | .invalidUnicodeEscape => "Invalid Unicode escape sequence"
  | .unexpectedFlag flag => s!"Unexpected flag {flag} in regular expression literal"
  | .repeatedFlag flag => s!"Flag {flag} is mentioned twice in regular expression literal"
  | .conflictingFlags =>
    "The 'u' and 'v' regular expression flags cannot be enabled at the same time"
  | .escapedKeyword => "Keywords cannot contain escape characters"
  | .flowFile => "Flow is not supported"
  | .conflictMarker => "Encountered Git conflict marker"
  | .badTemplateEscape => "Bad escape sequence in untagged template literal"
  | .invalidTarget => "Cannot assign to this expression"
  | .invalidTargetDefault => "Invalid assignment target default value operator"
  | .spreadNotLast => "Spread must be last element"
  | .restNotLast => "A rest element must be last in a destructuring pattern"
  | .restParameterNotLast => "A rest parameter must be last in a parameter list"
  | .restTrailingComma => "A rest parameter or binding pattern may not have a trailing comma."
  | .restInitializer => "A rest element cannot have an initializer."
  | .invalidRestTarget => "Invalid rest operator's argument."
  | .invalidRestBinding => "Invalid binding rest element"
  | .missingConstInitializer => "Missing initializer in const declaration"
  | .missingPatternInitializer => "Missing initializer in destructuring declaration"
  | .usingWithoutInitializer => "Using declarations must have an initializer."
  | .usingPattern => "Using declarations may not have binding patterns."
  | .usingExported => "Using declarations cannot be exported directly."
  | .usingOverKeys =>
    "The left-hand side of a for...in statement cannot be an using declaration."
  | .awaitUsingOverKeys =>
    "The left-hand side of a for...in statement cannot be an await using declaration."
  | .coverInitializer => "Invalid assignment in object literal"
  | .returnOutsideFunction => "A 'return' statement can only be used within a function body."
  | .awaitOutsideAsync =>
    "`await` is only allowed within async functions and at the top levels of modules"
  | .awaitAsName => "Cannot use `await` as an identifier in an async context"
  | .yieldAsName => "Cannot use `yield` as an identifier in a generator context"
  | .yieldOutsideGenerator => "A 'yield' expression is only allowed in a generator body."
  | .forAwaitNotOf => "await can only be used in conjunction with `for...of` statements"
  | .forOfAsync => "The left-hand side of a `for...of` statement may not be `async`"
  | .trailingCommaInParentheses => "Parenthesized expressions may not have a trailing comma."
  | .emptyParentheses => "Empty parenthesized expression"
  | .lineEndBeforeArrow => "Line terminator not permitted before arrow"
  | .lineEndAfterThrow => "Illegal newline after throw"
  | .missingFunctionName => "Expected function name"
  | .missingFunctionBody => "Expected function body"
  | .missingSwitchClause => "Expected switch clause"
  | .missingCatchOrFinally => "Missing catch or finally clause"
  | .declarationAsSingleStatement =>
    "Lexical declaration cannot appear in a single-statement context"
  | .classAsSingleStatement => "Invalid class declaration"
  | .asyncFunctionAsSingleStatement =>
    "Async functions can only be declared at the top level or inside a block"
  | .generatorAsSingleStatement =>
    "Generators can only be declared at the top level or inside a block"
  | .identifierExpected => "Identifier expected."
  | .reservedWordAsName word =>
    s!"Identifier expected. '{word}' is a reserved word that cannot be used here."
  | .mixedCoalesce => "Logical expressions and coalesce expressions cannot be mixed"
  | .unaryBeforePower => "Unexpected exponentiation expression"
  | .typeAssertion => "Type assertion expressions can only be used in TypeScript files."
  | .typeSatisfaction => "Type satisfaction expressions can only be used in TypeScript files."
  | .importAlias => "'import ... =' can only be used in TypeScript files."
  | .markupElement => "Unexpected JSX expression"
  | .templateInOptionalChain =>
    "Tagged template expressions are not permitted in an optional chain"
  | .optionalChainAfterNew => "Invalid optional chain from new expression."
  | .newWithImport => "Cannot use new with dynamic import"
  | .unknownNewProperty => "The only valid meta property for new is new.target"
  | .unknownImportProperty => "The only valid meta property for import is import.meta"
  | .importWithoutSpecifier => "import() requires a specifier."
  | .importArguments =>
    "Dynamic imports can only accept a module specifier and an optional set of attributes " ++
      "as arguments"
  | .bareSuper => "'super' can only be used with function calls or in property accesses"
  | .privateInPrivate => "Unexpected right-hand side of private-in expression"
  | .getterParameters => "A 'get' accessor must not have any formal parameters."
  | .setterParameters => "A 'set' accessor must have exactly one parameter"
  | .setterRest => "A 'set' accessor cannot have rest parameter."
  | .privateConstructor => "Classes can't have an element named '#constructor'"
  | .fieldConstructor => "Classes can't have a field named 'constructor'"
  | .staticPrototype => "Classes may not have a static property named 'prototype'"
  | .accessorConstructor => "Constructor can't have get/set modifier"
  | .asyncConstructor => "Constructor can't be an async method"
  | .generatorConstructor => "Constructor can't be a generator"
  | .modifierNotAllowed modifier => s!"'{modifier}' modifier cannot be used here."
  | .misplacedDecorator => "Decorators are not valid here."
  | .decoratorsAroundExport =>
    "Decorators may not appear after 'export' or 'export default' if they also appear " ++
      "before 'export'."
  | .exportedReservedWord =>
    "A reserved word cannot be used as an exported binding without `from`"
  | .exportedString => "A string literal cannot be used as an exported binding without `from`"
  | .loneSurrogateName => "An export name cannot include a unicode lone surrogate"
  | .duplicateExport name => s!"Duplicated export '{name}'"
  | .duplicateDefaultExport => "Duplicated default export"

/-- An error and the byte offset at which it is reported. -/
structure Diagnostic where
  error : GrammarError
  offset : Nat
deriving DecidableEq, Repr, Inhabited

end EditionGuard.Script
