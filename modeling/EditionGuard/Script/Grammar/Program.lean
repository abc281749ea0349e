import EditionGuard.Script.Grammar.Module

/-!
# Programs

The rules are tied together, and a source text becomes a tree or the first of its errors.
-/

namespace EditionGuard.Script.Grammar

open EditionGuard.Script.Grammar.Parser

/-- The rule of each nonterminal, over the rules it calls. -/
def rule (rules : Rules) : Nonterminal → Parser Node
  | .statement place => statement rules place
  | .expression => expression rules
  | .assignment => assignmentExpression rules
  | .operation strength => operation rules strength
  | .unary => unary rules
  | .leftHandSide => leftHandSide rules
  | .newCallee => newCallee rules
  | .bindingPattern => bindingPattern rules

/-- The rules nested to a given depth. -/
def rulesOfDepth : Nat → Rules
  | 0 => fun _ => unexpected
  | depth + 1 => rule (rulesOfDepth depth)

/-- A few rules may nest before one of them takes a token. -/
def sufficientDepth (text : List Char) : Nat := 8 * text.length + 64

def initialSetting (goal : Goal) (text : List Char) : Setting where
  goal := goal
  inOperator := true
  yieldOperator := false
  awaitOperator := goal == .module
  returnAllowed := false
  inDecorator := false
  outsideFunctions := true
  steps := text.length + 2

def initialState (goal : Goal) (text : List Char) : State :=
  let (before, token, after) := (Scan.ofText text).token goal true
  { before, token, after, previousStop := 0, errors := [], scriptErrors := [],
    openDefaults := [], trailingCommas := [], plainParentheses := [],
    sawImportMeta := false, sawAwaitName := false }

def boundNames : Node → List (List Char × Nat)
  | .mk (.bindingName name) span _ => [(name, span.start)]
  | .mk .arrayPattern _ parts | .mk .objectPattern _ parts | .mk .restElement _ parts
  | .mk .declarator _ parts | .mk (.variableDeclaration _) _ parts => ofList parts
  | .mk .bindingProperty _ [_, value] => boundNames value
  | .mk .assignmentPattern _ (target :: _) => boundNames target
  | .mk (.functionLike _ _) _ (name :: _) => boundNames name
  | .mk .classLike _ parts => (parts.find? fun part =>
      match part.construct with
      | .bindingName _ => true
      | _ => false).toList.flatMap fun name =>
        match name.construct with
        | .bindingName text => [(text, name.span.start)]
        | _ => []
  | _ => []
where
  ofList : List Node → List (List Char × Nat)
    | [] => []
    | part :: rest => boundNames part ++ ofList rest

def spelledName (name : Node) : List (List Char × Nat) :=
  match name.construct with
  | .plainName text => [(text, name.span.start)]
  | .stringLiteral raw => [(stringContents raw, name.span.start)]
  | _ => []

/-- The names that a statement exports, with their offsets; a default export is apart. -/
def exportedNames : Node → List (List Char × Nat)
  | .mk .exportNamed _ parts => parts.flatMap fun part =>
    match part with
    | .mk .exportSpecifier _ [own] => spelledName own
    | .mk .exportSpecifier _ [_, exported] => spelledName exported
    | other => boundNames other
  | .mk (.exportAll true) _ (name :: _) => spelledName name
  | _ => []

/-- Where a statement exports its default: at the word after `export`. -/
def defaultExports : Node → List Nat
  | .mk .exportDefault _ (word :: _) => [word.span.start]
  | _ => []

/-- Names that are exported again, each at its first export. -/
def repeatedExports : List (List Char × Nat) → List (List Char × Nat) → List Diagnostic
  | _, [] => []
  | earlier, (name, offset) :: rest =>
    match earlier.find? (·.1 == name) with
    | some (_, first) =>
      ⟨.duplicateExport (String.ofList name), first⟩ ::
        repeatedExports ((name, offset) :: earlier) rest
    | none => repeatedExports ((name, offset) :: earlier) rest

/-- The errors of a module's exports. A default export and an export under the name
`default` exclude each other. -/
def exportErrors (statements : List Node) : List Diagnostic :=
  let names := statements.flatMap exportedNames
  let repeated := repeatedExports [] names
  let named := names.any fun (name, _) => name == "default".toList
  match statements.flatMap defaultExports with
  | [] => repeated
  | first :: more =>
    let last := more.getLast?.getD first
    repeated ++ (if more.isEmpty then [] else [⟨.duplicateDefaultExport, first⟩]) ++
      if named then [⟨.duplicateExport "default", last⟩] else []

def isModuleDeclaration (statement : Node) : Bool :=
  match statement.construct with
  | .importDeclaration | .exportNamed | .exportDefault | .exportAll _ => true
  | _ => false

/-- Statements with the state before each that used `await` as a name. -/
abbrev Statements : Type := List (Node × Option State)

def topStatements (rules : Rules) : Parser Statements :=
  loop [] fun (found : Statements) => do
    if ← isAt .endOfText then return .finish found.reverse
    modify fun state => { state with sawAwaitName := false }
    let start ← state
    let statement ← rules (.statement .list)
    let retry := if (← state).sawAwaitName then some start else none
    return .again ((statement, retry) :: found)

/-- In a text that turns out to be a module, statements that used `await` as a name are
read again with `await` as an operator. -/
def readAgain (rules : Rules) : Statements → Parser (List Node)
  | [] => return []
  | (statement, none) :: rest => do return statement :: (← readAgain rules rest)
  | (_, some start) :: rest => do
    let final ← state
    modify fun _ => { start with errors := final.errors, openDefaults := final.openDefaults }
    let statement ← within (fun setting => { setting with awaitOperator := true })
      (rules (.statement .list))
    let again ← state
    modify fun _ => { final with errors := again.errors, openDefaults := again.openDefaults }
    return statement :: (← readAgain rules rest)

def hashbang : Parser (List Node) := do
  if ← isAt .hashbang then
    let start ← here
    advance
    return [← node .hashbang start []]
  else return []

def program (text : List Char) (rules : Rules) : Parser (Node × List Node × Bool) := do
  let first ← hashbang
  let found ← topStatements rules
  let isModule := (← state).sawImportMeta || found.any fun (statement, _) =>
    isModuleDeclaration statement
  let goal := (← setting).goal
  let statements ← if goal == .unambiguous && isModule then readAgain rules found
    else pure (found.map (·.1))
  return (.mk .program ⟨0, Text.byteLength text⟩ (first ++ statements), statements, isModule)

/-- A file that is refused and whose first comment holds `@flow` is not meant for this
grammar. -/
def flowComment? (state : State) : Option Diagnostic :=
  state.after.firstComment.bind fun (offset, comment) =>
    if Text.occurs "@flow".toList comment then some ⟨.flowFile, offset⟩ else none

/-- All errors in the order in which they are reported: errors of scanning, errors of the
grammar, errors of exports, and last what only scripts forbid. -/
def diagnostics (goal : Goal) (outcome : Outcome (Node × List Node × Bool)) :
    List Diagnostic :=
  let early (state : State) (fatal : List Diagnostic) : List Diagnostic :=
    let defaults := state.openDefaults.reverse.map fun start =>
      (⟨.coverInitializer, start⟩ : Diagnostic)
    let found := state.after.errors.reverse ++ state.errors.reverse ++ fatal ++ defaults
    if found.isEmpty then [] else match flowComment? state with
      | some flow => [flow]
      | none => found
  match outcome with
  | .halted cause state => early state [cause]
  | .done (_, statements, isModule) state =>
    early state [] ++ exportErrors statements ++
      (if goal == .unambiguous && !isModule then state.scriptErrors.reverse else [])

end Grammar

/-- The tree of a source text, or the first of its errors. -/
def read (goal : Goal) (text : List Char) : Except Diagnostic Node :=
  let outcome := Grammar.program text (Grammar.rulesOfDepth (Grammar.sufficientDepth text))
    (Grammar.initialSetting goal text) (Grammar.initialState goal text)
  match Grammar.diagnostics goal outcome, outcome with
  | first :: _, _ => .error first
  | [], .done (tree, _, _) _ => .ok tree
  | [], .halted cause _ => .error cause

end EditionGuard.Script
