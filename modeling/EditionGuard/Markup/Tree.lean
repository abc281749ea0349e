import EditionGuard.Markup.Document

/-!
# The tree of a page

Texts and elements. What a template holds is no child of it and stands apart.
-/

namespace EditionGuard.Markup

inductive Tree where
  | text (chars : List Char)
  | element (name : Name) (attributes : List Attribute) (children : List Tree)
      (contents : List Tree)
deriving Repr, Inhabited

/-- The trees of a list of nodes. The number bounds the depth of what is taken up. -/
def Document.trees (document : Document) : Nat → List Nat → List Tree
  | 0, _ => []
  | depth + 1, ids =>
    ids.filterMap fun id =>
      let below (id : Nat) : List Tree := document.trees depth (document.node id).children.toList
      match (document.node id).kind with
      | .fragment => none
      | .text chars => some (.text chars)
      | .element name attributes contents =>
        some (.element name attributes (below id) ((contents.map below).getD []))

/-- The trees at the top of a document. No node lies deeper than there are nodes. -/
def Document.toTrees (document : Document) : List Tree :=
  document.trees document.nodes.size (document.node Document.root).children.toList

end EditionGuard.Markup
