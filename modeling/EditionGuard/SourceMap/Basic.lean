import EditionGuard.Text.Basic
import EditionGuard.Word

/-!
# Source maps

A source map says for places of an output text from which source and place they come. A
place without a token of its own belongs to the last token before it on its line.
-/

namespace EditionGuard

namespace SourceMap

/-- A place of the output, counted from zero, and where it comes from. -/
structure Token where
  line : Nat
  column : Nat
  /-- The index of the source, if the place comes from one. -/
  source : Option Nat
  sourceLine : Nat
  sourceColumn : Nat
  /-- Whether the columns after the place follow those of the source. -/
  isRange : Bool
deriving DecidableEq, Repr, Inhabited

def Token.isAt (line column : Nat) (token : Token) : Bool :=
  token.line == line && token.column == column

def Token.isBefore (line column : Nat) (token : Token) : Bool :=
  token.line < line || (token.line == line && token.column < column)

/-- Puts a token in front of the first that does not stand before it. -/
def insertToken (token : Token) : List Token → List Token
  | [] => [token]
  | other :: rest =>
    if other.isBefore token.line token.column then other :: insertToken token rest
    else token :: other :: rest

/-- Tokens in the order of their places; those of one place keep their order. -/
def sortTokens (tokens : List Token) : List Token := tokens.foldr insertToken []

end SourceMap

/-- The sources of an output text, and which of its places come from where. -/
structure SourceMap where
  sources : List (List Char)
  contents : List (Option (List Char))
  /-- In the order of their places. -/
  tokens : List SourceMap.Token
deriving DecidableEq, Repr, Inhabited

namespace SourceMap

/-- The token of a place: the first that stands at it, or else the last before it, which
must stand on the same line. -/
def lookup (map : SourceMap) (line column : Nat) : Option Token :=
  let found := (map.tokens.find? fun token => token.isAt line column).or
    (map.tokens.reverse.find? fun token => token.isBefore line column)
  found.filter fun token => token.line == line

/-- The column of the source that a column of the output comes from. -/
def Token.columnFor (column : Nat) (token : Token) : Nat :=
  if token.isRange then min (token.sourceColumn + (column - token.column)) (Word.count32 - 1)
  else token.sourceColumn

def source? (map : SourceMap) (index : Nat) : Option (List Char) := map.sources[index]?

def content? (map : SourceMap) (index : Nat) : Option (List Char) := (map.contents[index]?).join

end SourceMap

end EditionGuard
