import EditionGuard.Json.Reader
import EditionGuard.Json.Record
import EditionGuard.SourceMap.DebugId
import EditionGuard.SourceMap.Mappings
import EditionGuard.SourceMap.Sections

/-!
# Reading source maps

A source map is a JSON record. It may say where its parts are, each with a map of its own.
-/

namespace EditionGuard.SourceMap

def isRooted (name : List Char) : Bool :=
  ["/", "http:", "https:"].any fun start => Text.startsWith start.toList name

/-- The name of a source below a root. One slash at the end of the root is dropped. -/
def rootedName (root name : List Char) : List Char :=
  if root.isEmpty || isRooted name then name
  else (if root.getLast? = some '/' then root.dropLast else root) ++ '/' :: name

/-- What the record of a source map says. -/
structure Fields where
  sources : List (List Char)
  contents : List (Option (List Char))
  nameCount : Nat
  mappings : List Char
  ranges : List Char
  parts : Option (List Json.Value)
  /-- Whether it is a map of functions as well. -/
  hasFunctions : Bool

def fieldNames : List (List String) :=
  [["version"], ["file"], ["sources"], ["sourceRoot"], ["sourcesContent"], ["sections"],
    ["names"], ["rangeMappings"], ["mappings"], ["ignoreList", "x_google_ignoreList"],
    ["x_facebook_offsets"], ["x_metro_module_paths"], ["x_facebook_sources"], ["debug_id"],
    ["debugId"]]

open Json.Value

def isFunctionMap (value : Json.Value) : Bool :=
  match value.allFields? [["names"], ["mappings"]] with
  | some [names, mappings] =>
    (required? (items? text?) names).isSome && (required? text? mappings).isSome
  | _ => false

def tested? (test : Json.Value → Bool) (value : Json.Value) : Option Unit :=
  if test value then some () else none

/-- The fields of a source map that may hold values nested to a depth; nothing if one holds
what it should not. -/
def Fields.ofJson? (depth : Nat) (value : Json.Value) : Option Fields := do
  match ← value.allFields? fieldNames with
  | [version, file, sources, root, contents, parts, names, ranges, mappings, ignored, offsets,
      modules, functions, debugId, otherId] =>
    let _ ← optional? word? version
    let _ ← optional? (tested? (·.isSound (depth - 1))) file
    let sources ← optional? (items? (nullable? text?)) sources
    let root ← optional? text? root
    let contents ← optional? (items? (nullable? text?)) contents
    let parts ← optional? (items? some) parts
    let names ← optional? (items? (tested? (·.isSound (depth - 2)))) names
    let ranges ← optional? text? ranges
    let mappings ← optional? text? mappings
    let _ ← optional? (items? word?) ignored
    let _ ← optional? (items? (nullable? word?)) offsets
    let _ ← optional? (items? text?) modules
    let functions ← optional? (items? (nullable? (items? (tested? isFunctionMap)))) functions
    let isId : Json.Value → Bool := fun value => (value.text?.map isDebugId).getD false
    let _ ← optional? (tested? isId) debugId
    let _ ← optional? (tested? isId) otherId
    let rootName := root.getD []
    return {
      sources := (sources.getD []).map fun name => rootedName rootName (name.getD [])
      contents := contents.getD []
      nameCount := (names.getD []).length
      mappings := mappings.getD []
      ranges := ranges.getD []
      parts
      hasFunctions := functions.isSome }
  | _ => none

def Fields.map? (fields : Fields) : Option SourceMap :=
  (readMappings fields.sources.length fields.nameCount fields.mappings fields.ranges).map
    fun tokens => ⟨fields.sources, fields.contents, sortTokens tokens⟩

def partOf? (value : Json.Value) : Option (Nat × Nat × Option Json.Value) := do
  match ← value.allFields? [["offset"], ["url"], ["map"]] with
  | [offset, url, map] =>
    let _ ← optional? text? url
    let map ← optional? some map
    match ← offset.bind (·.allFields? [["line"], ["column"]]) with
    | [line, column] => return (← required? word? line, ← required? word? column, map)
    | _ => none
  | _ => none

/-- How deep the values in the record of a map may be nested when maps may be nested in it
to the given depth: a map within another lies three values deeper. -/
def valueDepth (level : Nat) : Nat := 3 * level + 1

/-- The part that a record describes, by a way to read the record of its map. A part without
a map is none. -/
def partWith? (readMap? : Json.Value → Option (SourceMap × Bool)) (value : Json.Value) :
    Option Part := do
  let (line, column, map) ← partOf? value
  let (map, _) ← readMap? (← map)
  return { line, column, map }

/-- The map of a record, in which parts may be nested to a depth, and whether it is a map of
functions as well. A part without a map leaves the whole without one. -/
def ofJson? : Nat → Json.Value → Option (SourceMap × Bool)
  | 0, value => do
    let fields ← Fields.ofJson? (valueDepth 0) value
    if fields.parts.isSome then none else return (← fields.map?, fields.hasFunctions)
  | level + 1, value => do
    let fields ← Fields.ofJson? (valueDepth (level + 1)) value
    match fields.parts with
    | none => return (← fields.map?, fields.hasFunctions)
    | some parts => return (ofParts (← parts.mapM (partWith? (ofJson? level))), false)

/-- Whether a first line that begins with a character is no part of the map. -/
def isGuard (byte : UInt8) : Bool := byte == 41 || byte == 93 || byte == 125 || byte == 39

/-- What follows the first line; nothing if it holds a carriage return that does not end
it. -/
def skipLine? : List UInt8 → Option (List UInt8)
  | [] => some []
  | 10 :: rest => some (10 :: rest)
  | 13 :: rest => if rest.head? = none ∨ rest.head? = some 10 then some rest else none
  | _ :: rest => skipLine? rest

/-- The text of a map without a first line that guards it. -/
def withoutGuard? (bytes : List UInt8) : Option (List UInt8) :=
  if (bytes.head?.map isGuard).getD false then skipLine? bytes else some bytes

def levelLimit : Nat := 42

/-- The map that some bytes are. A map of functions counts as none. -/
def read? (bytes : List UInt8) : Option SourceMap := do
  let value ← Json.read? (← withoutGuard? bytes)
  let (map, hasFunctions) ← ofJson? levelLimit value
  if hasFunctions then none else some map

end EditionGuard.SourceMap
