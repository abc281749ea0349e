import EditionGuard.Text.Blank

/-!
# Tokens of a page

What the text of a page is cut into: tags, runs of text, and the marks between them.
-/

namespace EditionGuard.Markup

structure Attribute where
  name : String
  value : List Char
deriving DecidableEq, Repr, Inhabited

structure Tag where
  name : String
  attributes : List Attribute := []
  selfClosing : Bool := false
deriving DecidableEq, Repr, Inhabited

def Tag.attribute? (tag : Tag) (name : String) : Option (List Char) :=
  (tag.attributes.find? fun item => item.name == name).map Attribute.value

/-- A piece of a page. Comments and document types leave nothing in the tree, so what they
hold is not kept. -/
inductive Token where
  | startTag (tag : Tag)
  | endTag (tag : Tag)
  /-- A run of blanks only. -/
  | blank (chars : List Char)
  /-- A run that holds more than blanks. -/
  | text (chars : List Char)
  /-- The character zero, outside raw text. -/
  | zero
  | comment
  | doctype
  | finish
deriving DecidableEq, Repr, Inhabited

def isBlank (char : Char) : Bool :=
  char == ' ' || char == '\n' || char == '\t' || char == '\x0c' || char == '\r'

def Token.ofRun (chars : List Char) : Token :=
  if chars.all isBlank then .blank chars else .text chars

/-- How the characters that follow are read. -/
inductive Content where
  /-- As markup. -/
  | markup
  /-- As text with character references, up to the end tag of a name. -/
  | escapable (name : String)
  /-- As text, up to the end tag of a name. -/
  | raw (name : String)
  /-- As the text of a script. -/
  | script
  /-- As text to the end of the page. -/
  | plain
deriving DecidableEq, Repr, Inhabited

end EditionGuard.Markup
