import EditionGuard.Markup.InlineScript

/-!
# Script elements

The inline scripts of a page are the texts of its script elements, as far as these run.  Of an
element more is known than its text: above all the type that it gives.
-/

namespace EditionGuard.Markup

/-- A script element: what it says of itself, and the text right inside. -/
structure ScriptElement where
  attributes : List Attribute
  text : List Char
deriving DecidableEq, Repr, Inhabited

namespace ScriptElement

/-- Whether the text of an element is an inline script. -/
def runs (script : ScriptElement) : Bool := runsInline script.attributes

/-- The type that an element gives, the last of several. -/
def type? (script : ScriptElement) : Option (List Char) :=
  (script.attributes.reverse.find? (·.name == "type")).map (·.value)

/-- Whether an element is of type `module`, whatever parameters it has. -/
def IsModule (script : ScriptElement) : Prop :=
  script.type?.map typeEssence = some "module".toList

instance (script : ScriptElement) : Decidable script.IsModule :=
  inferInstanceAs (Decidable (script.type?.map typeEssence = some "module".toList))

end ScriptElement

mutual

def Tree.scriptElements : Tree → List ScriptElement
  | .text _ => []
  | .element name attributes children _ =>
    if name.isScript then [⟨attributes, Tree.directText children⟩]
    else Tree.scriptElementsOf children

def Tree.scriptElementsOf : List Tree → List ScriptElement
  | [] => []
  | tree :: rest => tree.scriptElements ++ Tree.scriptElementsOf rest

end

/-- The script elements of a page that hold its inline scripts. -/
def inlineElements (page : List Char) : List ScriptElement :=
  (Tree.scriptElementsOf (Tree.ofPage page)).filter ScriptElement.runs

mutual

theorem Tree.inlineScripts_eq_map : ∀ tree : Tree,
    tree.inlineScripts = (tree.scriptElements.filter ScriptElement.runs).map (·.text)
  | .text _ => by rw [Tree.inlineScripts, Tree.scriptElements]; rfl
  | .element name attributes children _ => by
      rw [Tree.inlineScripts, Tree.scriptElements]
      by_cases isScript : name.isScript
      · rw [if_pos isScript, if_pos isScript]
        by_cases runs : runsInline attributes
        · rw [if_pos runs, List.filter_cons_of_pos (by exact runs)]
          rfl
        · rw [if_neg runs, List.filter_cons_of_neg (by exact runs)]
          rfl
      · rw [if_neg isScript, if_neg isScript]
        exact Tree.inlineScriptsOf_eq_map children

theorem Tree.inlineScriptsOf_eq_map : ∀ trees : List Tree,
    Tree.inlineScriptsOf trees =
      ((Tree.scriptElementsOf trees).filter ScriptElement.runs).map (·.text)
  | [] => by rw [Tree.inlineScriptsOf, Tree.scriptElementsOf]; rfl
  | tree :: rest => by
      rw [Tree.inlineScriptsOf, Tree.scriptElementsOf, List.filter_append, List.map_append,
        Tree.inlineScripts_eq_map tree, Tree.inlineScriptsOf_eq_map rest]

end

theorem inlineScripts_eq_map (page : List Char) :
    inlineScripts page = (inlineElements page).map (·.text) :=
  Tree.inlineScriptsOf_eq_map (Tree.ofPage page)

end EditionGuard.Markup
