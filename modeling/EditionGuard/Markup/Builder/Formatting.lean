import EditionGuard.Markup.Builder.Basic

/-!
# Formatting

Formatting elements such as `b` and `i` stay in force when an element around them is closed:
they are opened again in what follows. An end tag of formatting that does not nest with the
blocks inside it splits the element and moves the blocks out.
-/

namespace EditionGuard.Markup

namespace Formatting

def isMarker : Formatting → Bool
  | .marker => true
  | .element _ _ => false

def isOf (id : Nat) : Formatting → Bool
  | .marker => false
  | .element other _ => other == id

/-- Whether two tags begin the same formatting. -/
def sameTag (left right : Tag) : Bool :=
  left.name == right.name && left.attributes.length == right.attributes.length &&
    left.attributes.all right.attributes.contains

end Formatting

namespace Builder

variable (builder : Builder)

/-- Keeps what follows free of the formatting in force. -/
def addMarker : Builder := { builder with formatting := .marker :: builder.formatting }

def clearToMarker : Builder :=
  { builder with
    formatting := (builder.formatting.dropWhile fun entry => !entry.isMarker).tail }

def formattingHere : List Formatting :=
  builder.formatting.takeWhile fun entry => !entry.isMarker

def formattingNamed? (name : String) : Option (Nat × Tag) :=
  builder.formattingHere.findSome? fun entry =>
    match entry with
    | .element id tag => if tag.name == name then some (id, tag) else none
    | .marker => none

def isFormatting (id : Nat) : Bool := builder.formatting.any (Formatting.isOf id)

def removeFormatting (id : Nat) : Builder :=
  { builder with formatting := builder.formatting.filter fun entry => !entry.isOf id }

/-- Puts the element that has just been opened for a tag into force. Of the same formatting
no more than three are kept since the last marker. -/
def addFormatting (id : Nat) (tag : Tag) : Builder :=
  let same := builder.formattingHere.filterMap fun entry =>
    match entry with
    | .element other begun => if Formatting.sameTag begun tag then some other else none
    | .marker => none
  let builder :=
    match same.getLast? with
    | some oldest => if 3 ≤ same.length then builder.removeFormatting oldest else builder
    | none => builder
  { builder with formatting := .element id tag :: builder.formatting }

def openFormatting (tag : Tag) : Builder :=
  let (id, builder) := builder.openElement ⟨.html, tag.name⟩ tag.attributes
  builder.addFormatting id tag

/-- Opens again the formatting in force whose elements have been closed. -/
def reopenFormatting : Builder :=
  let closed := builder.formatting.takeWhile fun entry =>
    match entry with
    | .marker => false
    | .element id _ => !builder.isOpen id
  let kept := { builder with formatting := builder.formatting.drop closed.length }
  closed.foldr (fun entry builder =>
    match entry with
    | .marker => builder
    | .element _ tag =>
      let (id, builder) := builder.openElement ⟨.html, tag.name⟩ tag.attributes
      { builder with formatting := .element id tag :: builder.formatting }) kept

/-- An end tag without a rule of its own: closes the innermost element of its name, unless a
special element is further in. -/
def endPlain (name : String) : Builder :=
  match builder.opened.find? fun element => element.among [name] || element.among special with
  | none => builder
  | some found =>
    if found.among [name] then
      let builder := builder.closeImplied name
      { builder with opened := (builder.opened.dropWhile (·.id != found.id)).tail }
    else builder

/-- What is kept while formatting between a block and the element to be split is copied. -/
structure Splitting where
  builder : Builder
  moved : Nat
  /-- The copies that stay open, outermost first. -/
  copies : List Open := []
  /-- The element behind whose entry the new formatting comes; none as long as it takes the
  place of the old. -/
  bookmark : Option Nat := none
  count : Nat := 0

/-- Takes an element that lies between the block and the split element. What is formatting
in force is copied around what has been moved; the rest, and all but the three innermost,
is closed. -/
def Splitting.step (state : Splitting) (element : Open) : Splitting :=
  let state := { state with count := state.count + 1 }
  let tag? := state.builder.formatting.findSome? fun entry =>
    match entry with
    | .element id tag => if id == element.id then some tag else none
    | .marker => none
  match tag? with
  | none => state
  | some tag =>
    if 3 < state.count then { state with builder := state.builder.removeFormatting element.id }
    else
      let (id, builder) := state.builder.createElement ⟨.html, tag.name⟩ tag.attributes
      let formatting := builder.formatting.map fun entry =>
        if entry.isOf element.id then .element id tag else entry
      let document := (builder.document.detach state.moved).insert ⟨id, none⟩ state.moved
      { state with
        builder := { builder with formatting, document }
        moved := id
        copies := ⟨id, ⟨.html, tag.name⟩⟩ :: state.copies
        bookmark := if state.copies.isEmpty then some id else state.bookmark }

/-- Splits a formatting element around the block `block` inside it: `inner` are the elements
inside the block, `between` those between the two, both innermost first, and `outer` those
around the formatting element. -/
def splitFormatting (id : Nat) (tag : Tag) (inner : List Open) (block : Open)
    (between outer : List Open) : Builder :=
  let split := between.foldl Splitting.step { builder, moved := block.id }
  let builder := split.builder
  let document := builder.document.detach split.moved
  let builder := { builder with document }
  let place := match outer.head? with
    | some target => builder.placeIn target
    | none => ⟨Document.root, none⟩
  let builder := { builder with document := builder.document.insert place split.moved }
  let (copy, builder) := builder.createElement ⟨.html, tag.name⟩ tag.attributes
  let document := builder.document.moveChildren block.id copy
  let document := document.insert ⟨builder.document.home block.id, none⟩ copy
  let formatting :=
    match split.bookmark with
    | none => builder.formatting.map fun entry =>
        if entry.isOf id then .element copy tag else entry
    | some mark =>
      (builder.formatting.flatMap fun entry =>
        if entry.isOf mark then [.element copy tag, entry] else [entry]).filter
          fun entry => !entry.isOf id
  { builder with
    document
    formatting
    opened := inner ++ ⟨copy, ⟨.html, tag.name⟩⟩ :: block :: split.copies.reverse ++ outer }

/-- Ends the formatting of a name, at most so many times. -/
def endFormattingRounds (name : String) : Nat → Builder → Builder
  | 0, builder => builder
  | rounds + 1, builder =>
    match builder.formattingNamed? name with
    | none => builder.endPlain name
    | some (id, tag) =>
      if !builder.isOpen id then builder.removeFormatting id
      else if !builder.reaches closesScope (·.id == id) then builder
      else
        let within := builder.opened.takeWhile (·.id != id)
        let outer := (builder.opened.dropWhile (·.id != id)).tail
        match within.reverse.find? (·.among special) with
        | none => { builder with opened := outer }.removeFormatting id
        | some block =>
          let inner := within.takeWhile (·.id != block.id)
          let between := (within.dropWhile (·.id != block.id)).tail
          endFormattingRounds name rounds
            (builder.splitFormatting id tag inner block between outer)

def endFormatting (name : String) : Builder :=
  match builder.opened with
  | innermost :: outer =>
    if innermost.among [name] && !builder.isFormatting innermost.id then
      { builder with opened := outer }
    else endFormattingRounds name 8 builder
  | [] => builder

end Builder

end EditionGuard.Markup
