import EditionGuard.Markup.Page

/-!
# Inline scripts

The scripts that a page holds in its text, in the order of the page: those that name no
source and whose type a browser runs. What templates hold does not run.
-/

namespace EditionGuard.Markup

def scriptTypes : List String :=
  ["module", "text/javascript", "application/javascript", "application/ecmascript",
    "application/x-ecmascript", "application/x-javascript", "text/ecmascript",
    "text/javascript1.0", "text/javascript1.1", "text/javascript1.2", "text/javascript1.3",
    "text/javascript1.4", "text/javascript1.5", "text/jscript", "text/livescript",
    "text/x-ecmascript", "text/x-javascript"]

/-- What a type says without its parameters. -/
def typeEssence (value : List Char) : List Char :=
  Text.lowerAscii (Text.trim (value.takeWhile (· != ';')))

def runsType (value : List Char) : Bool :=
  let essence := typeEssence value
  essence.isEmpty || scriptTypes.any (·.toList == essence)

def Name.isScript (name : Name) : Bool := Text.lowerAscii name.label.toList == "script".toList

/-- Whether a script with the given attributes stands in the page and runs. The last of
several types counts. -/
def runsInline (attributes : List Attribute) : Bool :=
  !attributes.any (·.name == "src") &&
    match attributes.reverse.find? (·.name == "type") with
    | some item => runsType item.value
    | none => true

def Tree.directText (children : List Tree) : List Char :=
  children.flatMap fun child =>
    match child with
    | .text chars => chars
    | .element _ _ _ _ => []

mutual

/-- The inline scripts of a tree in document order. Scripts are not looked into. -/
def Tree.inlineScripts : Tree → List (List Char)
  | .text _ => []
  | .element name attributes children _ =>
    if name.isScript then
      if runsInline attributes then [Tree.directText children] else []
    else Tree.inlineScriptsOf children

def Tree.inlineScriptsOf : List Tree → List (List Char)
  | [] => []
  | tree :: rest => tree.inlineScripts ++ Tree.inlineScriptsOf rest

end

def inlineScripts (page : List Char) : List (List Char) :=
  Tree.inlineScriptsOf (Tree.ofPage page)

end EditionGuard.Markup
