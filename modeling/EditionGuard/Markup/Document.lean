import EditionGuard.Markup.Token

/-!
# Documents under construction

The nodes of a document in the order of their creation. A node knows its parent and its
children; the nodes that hold the contents of templates have no parent.
-/

namespace EditionGuard.Markup

/-- The language that an element belongs to: pages, drawings or formulas. -/
inductive Namespace where
  | html
  | svg
  | math
deriving DecidableEq, Repr, Inhabited

structure Name where
  space : Namespace
  label : String
deriving DecidableEq, Repr, Inhabited

inductive Kind where
  /-- A document, or the contents of a template. -/
  | fragment
  | text (chars : List Char)
  /-- An element; `contents` is the fragment of a template. -/
  | element (name : Name) (attributes : List Attribute) (contents : Option Nat)
deriving DecidableEq, Repr, Inhabited

/-- A node, with the numbers of its parent and its children. -/
structure Node where
  kind : Kind
  parent : Option Nat := none
  children : Array Nat := #[]
deriving DecidableEq, Repr, Inhabited

structure Document where
  nodes : Array Node
deriving DecidableEq, Repr, Inhabited

/-- A place among the children of a node: before one of them, or behind all. -/
structure Place where
  parent : Nat
  before : Option Nat := none
deriving DecidableEq, Repr

namespace Document

def empty : Document := ⟨#[{ kind := .fragment }]⟩

def root : Nat := 0

def node (document : Document) (id : Nat) : Node :=
  (document.nodes[id]?).getD { kind := .fragment }

def update (document : Document) (id : Nat) (change : Node → Node) : Document :=
  ⟨document.nodes.modify id change⟩

def create (document : Document) (kind : Kind) : Nat × Document :=
  (document.nodes.size, ⟨document.nodes.push { kind }⟩)

def attributes (document : Document) (id : Nat) : List Attribute :=
  match (document.node id).kind with
  | .element _ attributes _ => attributes
  | _ => []

/-- Where the children of an element go: a template keeps them in its contents. -/
def home (document : Document) (id : Nat) : Nat :=
  match (document.node id).kind with
  | .element _ _ (some contents) => contents
  | _ => id

def detach (document : Document) (id : Nat) : Document :=
  match (document.node id).parent with
  | none => document
  | some parent =>
    (document.update parent fun node => { node with children := node.children.filter (· != id) })
      |>.update id fun node => { node with parent := none }

def index (document : Document) (place : Place) : Nat :=
  let children := (document.node place.parent).children
  match place.before with
  | none => children.size
  | some sibling => (children.findIdx? (· == sibling)).getD children.size

def insert (document : Document) (place : Place) (id : Nat) : Document :=
  let index := document.index place
  (document.update place.parent fun node =>
    { node with children := node.children.insertIdxIfInBounds index id })
    |>.update id fun node => { node with parent := some place.parent }

/-- Puts text at a place. It joins a text that stands right before. -/
def insertText (document : Document) (place : Place) (chars : List Char) : Document :=
  let index := document.index place
  let previous := if index = 0 then none else (document.node place.parent).children[index - 1]?
  match previous.map fun id => (id, (document.node id).kind) with
  | some (id, .text written) =>
    document.update id fun node => { node with kind := .text (written ++ chars) }
  | _ =>
    let (id, document) := document.create (.text chars)
    document.insert place id

def moveChildren (document : Document) (source target : Nat) : Document :=
  (document.node source).children.foldl
    (fun document child => (document.detach child).insert ⟨target, none⟩ child) document

end Document

end EditionGuard.Markup
