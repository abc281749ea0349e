/-!
# Words with a meaning of their own

The words that the language reserves, the words that it reserves in strict code only, and
the words that have a meaning in some places and are plain names elsewhere.
-/

namespace EditionGuard.Script

/-- A word that some grammar rule asks for by name. -/
inductive Keyword where
  | awaitWord
  | breakWord
  | caseWord
  | catchWord
  | classWord
  | constWord
  | continueWord
  | debuggerWord
  | defaultWord
  | deleteWord
  | doWord
  | elseWord
  | enumWord
  | exportWord
  | extendsWord
  | falseWord
  | finallyWord
  | forWord
  | functionWord
  | ifWord
  | importWord
  | inWord
  | instanceofWord
  | newWord
  | nullWord
  | returnWord
  | superWord
  | switchWord
  | thisWord
  | throwWord
  | trueWord
  | tryWord
  | typeofWord
  | varWord
  | voidWord
  | whileWord
  | withWord
  | yieldWord
  | abstractWord
  | accessorWord
  | anyWord
  | asWord
  | assertWord
  | assertsWord
  | asyncWord
  | bigintWord
  | booleanWord
  | constructorWord
  | declareWord
  | deferWord
  | fromWord
  | getWord
  | globalWord
  | inferWord
  | intrinsicWord
  | isWord
  | keyofWord
  | metaWord
  | moduleWord
  | namespaceWord
  | neverWord
  | numberWord
  | objectWord
  | ofWord
  | outWord
  | overrideWord
  | readonlyWord
  | requireWord
  | satisfiesWord
  | setWord
  | sourceWord
  | stringWord
  | symbolWord
  | targetWord
  | typeWord
  | undefinedWord
  | uniqueWord
  | unknownWord
  | usingWord
  | implementsWord
  | interfaceWord
  | letWord
  | packageWord
  | privateWord
  | protectedWord
  | publicWord
  | staticWord
deriving DecidableEq, Repr, Inhabited

namespace Keyword

def text : Keyword → String
  | .awaitWord => "await"
  | .breakWord => "break"
  | .caseWord => "case"
  | .catchWord => "catch"
  | .classWord => "class"
  | .constWord => "const"
  | .continueWord => "continue"
  | .debuggerWord => "debugger"
  | .defaultWord => "default"
  | .deleteWord => "delete"
  | .doWord => "do"
  | .elseWord => "else"
  | .enumWord => "enum"
  | .exportWord => "export"
  | .extendsWord => "extends"
  | .falseWord => "false"
  | .finallyWord => "finally"
  | .forWord => "for"
  | .functionWord => "function"
  | .ifWord => "if"
  | .importWord => "import"
  | .inWord => "in"
  | .instanceofWord => "instanceof"
  | .newWord => "new"
  | .nullWord => "null"
  | .returnWord => "return"
  | .superWord => "super"
  | .switchWord => "switch"
  | .thisWord => "this"
  | .throwWord => "throw"
  | .trueWord => "true"
  | .tryWord => "try"
  | .typeofWord => "typeof"
  | .varWord => "var"
  | .voidWord => "void"
  | .whileWord => "while"
  | .withWord => "with"
  | .yieldWord => "yield"
  | .abstractWord => "abstract"
  | .accessorWord => "accessor"
  | .anyWord => "any"
  | .asWord => "as"
  | .assertWord => "assert"
  | .assertsWord => "asserts"
  | .asyncWord => "async"
  | .bigintWord => "bigint"
  | .booleanWord => "boolean"
  | .constructorWord => "constructor"
  | .declareWord => "declare"
  | .deferWord => "defer"
  | .fromWord => "from"
  | .getWord => "get"
  | .globalWord => "global"
  | .inferWord => "infer"
  | .intrinsicWord => "intrinsic"
  | .isWord => "is"
  | .keyofWord => "keyof"
  | .metaWord => "meta"
  | .moduleWord => "module"
  | .namespaceWord => "namespace"
  | .neverWord => "never"
  | .numberWord => "number"
  | .objectWord => "object"
  | .ofWord => "of"
  | .outWord => "out"
  | .overrideWord => "override"
  | .readonlyWord => "readonly"
  | .requireWord => "require"
  | .satisfiesWord => "satisfies"
  | .setWord => "set"
  | .sourceWord => "source"
  | .stringWord => "string"
  | .symbolWord => "symbol"
  | .targetWord => "target"
  | .typeWord => "type"
  | .undefinedWord => "undefined"
  | .uniqueWord => "unique"
  | .unknownWord => "unknown"
  | .usingWord => "using"
  | .implementsWord => "implements"
  | .interfaceWord => "interface"
  | .letWord => "let"
  | .packageWord => "package"
  | .privateWord => "private"
  | .protectedWord => "protected"
  | .publicWord => "public"
  | .staticWord => "static"

/-- Words that never name a variable outside sloppy code. -/
def reserved : List Keyword :=
  [.awaitWord, .breakWord, .caseWord, .catchWord, .classWord, .constWord, .continueWord,
   .debuggerWord, .defaultWord, .deleteWord, .doWord, .elseWord, .enumWord, .exportWord,
   .extendsWord, .falseWord, .finallyWord, .forWord, .functionWord, .ifWord, .importWord,
   .inWord, .instanceofWord, .newWord, .nullWord, .returnWord, .superWord, .switchWord,
   .thisWord, .throwWord, .trueWord, .tryWord, .typeofWord, .varWord, .voidWord,
   .whileWord, .withWord, .yieldWord]

/-- Words that are plain names where no rule asks for them. -/
def contextual : List Keyword :=
  [.abstractWord, .accessorWord, .anyWord, .asWord, .assertWord, .assertsWord, .asyncWord,
   .bigintWord, .booleanWord, .constructorWord, .declareWord, .deferWord, .fromWord,
   .getWord, .globalWord, .inferWord, .intrinsicWord, .isWord, .keyofWord, .metaWord,
   .moduleWord, .namespaceWord, .neverWord, .numberWord, .objectWord, .ofWord, .outWord,
   .overrideWord, .readonlyWord, .requireWord, .satisfiesWord, .setWord, .sourceWord,
   .stringWord, .symbolWord, .targetWord, .typeWord, .undefinedWord, .uniqueWord,
   .unknownWord, .usingWord]

def strictReserved : List Keyword :=
  [.implementsWord, .interfaceWord, .letWord, .packageWord, .privateWord, .protectedWord,
   .publicWord, .staticWord]

def ofText? (word : String) : Option Keyword :=
  (reserved ++ contextual ++ strictReserved).find? (·.text == word)

def isReserved (word : Keyword) : Bool := reserved.contains word

/-- Whether the word may stand for itself as a name, whatever the context. -/
def isPlainName (word : Keyword) : Bool := contextual.contains word || strictReserved.contains word

end Keyword

end EditionGuard.Script
