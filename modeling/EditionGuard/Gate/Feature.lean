import EditionGuard.Edition

/-!
# Features and the editions that brought them
-/

namespace EditionGuard.Gate

/-- A construct, or a detail of one, that some edition brought. -/
inductive Feature where
  | hashbang
  | letDeclaration
  | constDeclaration
  | usingDeclaration
  | asyncGenerator
  | asyncFunction
  | generatorFunction
  | asyncArrow
  | arrowFunction
  | classLike
  | classField
  | staticBlock
  | privateName
  | decorator
  | superReference
  | importAttributes
  | importDeclaration
  | exportDeclaration
  | exportAllAs
  | dynamicImport
  | importMeta
  | newTarget
  | destructuring
  | objectRest
  | parameterComma
  | defaultValue
  | restElement
  | destructuringAssignment
  | objectSpread
  | spreadElement
  | computedProperty
  | shorthandMethod
  | shorthandProperty
  | forAwait
  | forOf
  | optionalCatch
  | template
  | yieldOperator
  | topLevelAwait
  | awaitOperator
  | power
  | coalesce
  | powerAssignment
  | andAssignment
  | orAssignment
  | coalesceAssignment
  | optionalChaining
  | argumentComma
  | radixLiteral
  | numericSeparator
  | bigint
  | codePointEscape
  | regexFlag (flag : Char)
  | lookbehind
  | namedGroup
  | regexModifiers
  | propertyEscape
deriving DecidableEq, Repr, Inhabited

namespace Feature

def name : Feature → String
  | .hashbang => "hashbang comment"
  | .letDeclaration => "`let` declaration"
  | .constDeclaration => "`const` declaration"
  | .usingDeclaration => "`using` declaration"
  | .asyncGenerator => "async generator"
  | .asyncFunction => "async function"
  | .generatorFunction => "generator function"
  | .asyncArrow => "async arrow function"
  | .arrowFunction => "arrow function"
  | .classLike => "class"
  | .classField => "class field"
  | .staticBlock => "class static block"
  | .privateName => "private name"
  | .decorator => "decorator"
  | .superReference => "`super`"
  | .importAttributes => "import attributes"
  | .importDeclaration => "`import` declaration"
  | .exportDeclaration => "`export` declaration"
  | .exportAllAs => "`export * as` declaration"
  | .dynamicImport => "dynamic `import()`"
  | .importMeta => "`import.meta`"
  | .newTarget => "`new.target`"
  | .destructuring => "destructuring"
  | .objectRest => "object rest properties"
  | .parameterComma => "trailing comma in parameter list"
  | .defaultValue => "default value"
  | .restElement => "rest element"
  | .destructuringAssignment => "destructuring assignment"
  | .objectSpread => "object spread"
  | .spreadElement => "spread element"
  | .computedProperty => "computed property name"
  | .shorthandMethod => "shorthand method"
  | .shorthandProperty => "shorthand property"
  | .forAwait => "`for await` loop"
  | .forOf => "`for...of` loop"
  | .optionalCatch => "optional catch binding"
  | .template => "template literal"
  | .yieldOperator => "`yield`"
  | .topLevelAwait => "top-level `await`"
  | .awaitOperator => "`await`"
  | .power => "exponentiation operator `**`"
  | .coalesce => "nullish coalescing `??`"
  | .powerAssignment => "exponentiation assignment `**=`"
  | .andAssignment => "logical assignment `&&=`"
  | .orAssignment => "logical assignment `||=`"
  | .coalesceAssignment => "logical assignment `??=`"
  | .optionalChaining => "optional chaining `?.`"
  | .argumentComma => "trailing comma in arguments"
  | .radixLiteral => "binary or octal literal"
  | .numericSeparator => "numeric separator"
  | .bigint => "BigInt literal"
  | .codePointEscape => "unicode code point escape"
  | .regexFlag flag => s!"regular expression flag `{flag}`"
  | .lookbehind => "regular expression lookbehind"
  | .namedGroup => "regular expression named group"
  | .regexModifiers => "regular expression modifiers"
  | .propertyEscape => "regular expression property escape"

/-- The first edition that has a feature; `latest` where none has it yet. -/
def introducedIn : Feature → Edition
  | .letDeclaration | .constDeclaration | .generatorFunction | .arrowFunction | .classLike
  | .superReference | .importDeclaration | .exportDeclaration | .newTarget
  | .destructuring | .defaultValue | .restElement | .destructuringAssignment
  | .spreadElement | .computedProperty | .shorthandMethod | .shorthandProperty | .forOf
  | .template | .yieldOperator | .radixLiteral | .codePointEscape => .es2015
  | .power | .powerAssignment => .es2016
  | .asyncFunction | .asyncArrow | .parameterComma | .awaitOperator | .argumentComma =>
    .es2017
  | .asyncGenerator | .objectRest | .objectSpread | .forAwait | .lookbehind | .namedGroup
  | .propertyEscape => .es2018
  | .optionalCatch => .es2019
  | .exportAllAs | .dynamicImport | .importMeta | .coalesce | .optionalChaining | .bigint =>
    .es2020
  | .andAssignment | .orAssignment | .coalesceAssignment | .numericSeparator => .es2021
  | .classField | .staticBlock | .privateName | .topLevelAwait => .es2022
  | .hashbang => .es2023
  | .importAttributes | .regexModifiers => .es2025
  | .usingDeclaration | .decorator => .latest
  | .regexFlag flag =>
    if flag == 's' then .es2018
    else if flag == 'd' then .es2022
    else if flag == 'v' then .es2024
    else .es2015

end Feature

/-- A demand for a feature at a byte offset. -/
structure Requirement where
  offset : Nat
  feature : Feature
deriving DecidableEq, Repr, Inhabited

def Requirement.edition (requirement : Requirement) : Edition :=
  requirement.feature.introducedIn

def Requirement.message (requirement : Requirement) : String :=
  s!"Unexpected token: {requirement.feature.name} requires {requirement.edition.display}"

end EditionGuard.Gate
