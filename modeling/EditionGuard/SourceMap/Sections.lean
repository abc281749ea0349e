import EditionGuard.SourceMap.Basic
import EditionGuard.Word

/-!
# Sections

Source maps of parts of an output, joined to one for the whole. Sources of one name become
one source, with the last text that is given for it.
-/

namespace EditionGuard.SourceMap

/-- A part of an output: where it begins, and its map. -/
structure Part where
  line : Nat
  column : Nat
  map : SourceMap
deriving DecidableEq, Repr, Inhabited

/-- Puts a part in front of the first that does not begin before it. -/
def insertPart (part : Part) : List Part → List Part
  | [] => [part]
  | other :: rest =>
    if other.line < part.line ∨ (other.line = part.line ∧ other.column < part.column) then
      other :: insertPart part rest
    else part :: other :: rest

def withSources (whole : SourceMap) : List (List Char × Option (List Char)) → SourceMap
  | [] => whole
  | (name, content) :: rest =>
    let joined := match whole.sources.idxOf? name with
      | some index =>
        if content.isSome then { whole with contents := whole.contents.set index content }
        else whole
      | none =>
        { whole with
          sources := whole.sources ++ [name]
          contents := whole.contents ++ [content] }
    joined.withSources rest

/-- A token of a part as a token of the whole. Places count in 32 bits. -/
def Part.place (part : Part) (whole : SourceMap) (token : Token) : Token :=
  { token with
    line := (token.line + part.line) % Word.count32
    column :=
      if token.line = 0 then (token.column + part.column) % Word.count32 else token.column
    source := token.source.bind fun index =>
      (part.map.source? index).bind fun name => whole.sources.idxOf? name }

def join (whole : SourceMap) (part : Part) : SourceMap :=
  let named := part.map.sources.zipIdx.map fun (name, index) => (name, part.map.content? index)
  let joined := whole.withSources named
  { joined with tokens := joined.tokens ++ part.map.tokens.map (part.place joined) }

def ofParts (parts : List Part) : SourceMap :=
  let joined := (parts.foldr insertPart []).foldl join ⟨[], [], []⟩
  { joined with tokens := sortTokens joined.tokens }

end EditionGuard.SourceMap
