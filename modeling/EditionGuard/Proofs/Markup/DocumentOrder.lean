import EditionGuard.Proofs.Markup.ScriptElement
import Mathlib.Data.List.Nodup

/-!
# Inline scripts in document order

A place in a list of trees is an address: which of the trees, which of its children, and so on
down.  Document order is the lexicographic order of addresses, in which an element comes before
what it holds.  The inline scripts of a list of trees are the texts of the script elements that
run, each once, by ascending address.
-/

namespace EditionGuard.Markup

def Tree.text? : Tree → Option (List Char)
  | .text chars => some chars
  | .element _ _ _ _ => none

/-- That a script element stands in a tree at an address, below no other script element and in
no template's contents.  Its text is that of the texts among its children, one behind the
other. -/
inductive Tree.HoldsScript : Tree → List Nat → ScriptElement → Prop
  | self {name : Name} {attributes : List Attribute} {children contents : List Tree}
      (isScript : name.isScript) :
      HoldsScript (.element name attributes children contents) []
        ⟨attributes, (children.filterMap Tree.text?).flatten⟩
  | inner {name : Name} {attributes : List Attribute} {children contents : List Tree}
      {place : Nat} {child : Tree} {address : List Nat} {script : ScriptElement}
      (noScript : ¬ name.isScript) (atPlace : children[place]? = some child)
      (held : child.HoldsScript address script) :
      HoldsScript (.element name attributes children contents) (place :: address) script

/-- That a script element stands in one of several trees at an address. -/
def HoldScript (trees : List Tree) (address : List Nat) (script : ScriptElement) : Prop :=
  ∃ place tree inner, address = place :: inner ∧ trees[place]? = some tree ∧
    tree.HoldsScript inner script

mutual

def Tree.placedScripts : Tree → List (List Nat × ScriptElement)
  | .text _ => []
  | .element name attributes children _ =>
    if name.isScript then [([], ⟨attributes, Tree.directText children⟩)]
    else Tree.placedScriptsFrom 0 children

/-- The script elements of trees with their addresses, where the first tree has the given
number. -/
def Tree.placedScriptsFrom (number : Nat) : List Tree → List (List Nat × ScriptElement)
  | [] => []
  | tree :: rest =>
    tree.placedScripts.map (fun placed => (number :: placed.1, placed.2)) ++
      Tree.placedScriptsFrom (number + 1) rest

end

theorem Tree.directText_eq_flatten (children : List Tree) :
    Tree.directText children = (children.filterMap Tree.text?).flatten := by
  induction children with
  | nil => rfl
  | cons child rest ih =>
      rw [Tree.directText] at ih ⊢
      rw [List.flatMap_cons, ih]
      cases child with
      | text chars => rfl
      | element name attributes children contents => rfl

mutual

private theorem Tree.map_placedScripts : ∀ tree : Tree,
    tree.placedScripts.map (·.2) = tree.scriptElements
  | .text _ => by rw [Tree.placedScripts, Tree.scriptElements]; rfl
  | .element name attributes children _ => by
      rw [Tree.placedScripts, Tree.scriptElements]
      by_cases isScript : name.isScript
      · rw [if_pos isScript, if_pos isScript]
        rfl
      · rw [if_neg isScript, if_neg isScript]
        exact Tree.map_placedScriptsFrom 0 children

private theorem Tree.map_placedScriptsFrom : ∀ (number : Nat) (trees : List Tree),
    (Tree.placedScriptsFrom number trees).map (·.2) = Tree.scriptElementsOf trees
  | _, [] => by rw [Tree.placedScriptsFrom, Tree.scriptElementsOf]; rfl
  | number, tree :: rest => by
      rw [Tree.placedScriptsFrom, Tree.scriptElementsOf, List.map_append, List.map_map,
        ← Tree.map_placedScripts tree, ← Tree.map_placedScriptsFrom (number + 1) rest]
      rfl

end

mutual

private theorem Tree.mem_placedScripts : ∀ (tree : Tree) (address : List Nat)
    (script : ScriptElement),
    (address, script) ∈ tree.placedScripts ↔ tree.HoldsScript address script
  | .text _, _, _ => by
      rw [Tree.placedScripts]
      exact ⟨nofun, nofun⟩
  | .element name attributes children _, address, script => by
      rw [Tree.placedScripts]
      by_cases isScript : name.isScript
      · rw [if_pos isScript, List.mem_singleton, Prod.mk.injEq, Tree.directText_eq_flatten]
        constructor
        · rintro ⟨rfl, rfl⟩
          exact .self isScript
        · intro held
          cases held with
          | self _ => exact ⟨rfl, rfl⟩
          | inner noScript _ _ => exact absurd isScript noScript
      · rw [if_neg isScript, Tree.mem_placedScriptsFrom 0 children]
        constructor
        · rintro ⟨place, child, inner, rfl, atPlace, held⟩
          rw [Nat.zero_add]
          exact .inner isScript atPlace held
        · intro held
          cases held with
          | self isScript' => exact absurd isScript' isScript
          | inner _ atPlace held =>
              exact ⟨_, _, _, by rw [Nat.zero_add], atPlace, held⟩

private theorem Tree.mem_placedScriptsFrom : ∀ (number : Nat) (trees : List Tree)
    (address : List Nat) (script : ScriptElement),
    (address, script) ∈ Tree.placedScriptsFrom number trees ↔
      ∃ place tree inner, address = (number + place) :: inner ∧ trees[place]? = some tree ∧
        tree.HoldsScript inner script
  | _, [], _, _ => by
      rw [Tree.placedScriptsFrom]
      exact ⟨nofun, nofun⟩
  | number, tree :: rest, address, script => by
      rw [Tree.placedScriptsFrom, List.mem_append, List.mem_map,
        Tree.mem_placedScriptsFrom (number + 1) rest]
      constructor
      · rintro (⟨⟨inner, _⟩, isPlaced, same⟩ | ⟨place, other, inner, rfl, atPlace, held⟩)
        · obtain ⟨rfl, rfl⟩ := Prod.mk.inj same
          exact ⟨0, tree, inner, rfl, rfl, (Tree.mem_placedScripts tree _ _).mp isPlaced⟩
        · exact ⟨place + 1, other, inner, by rw [Nat.add_right_comm, Nat.add_assoc], atPlace, held⟩
      · rintro ⟨place, other, inner, rfl, atPlace, held⟩
        cases place with
        | zero =>
            obtain rfl : tree = other := Option.some.inj atPlace
            exact .inl ⟨(inner, script), (Tree.mem_placedScripts tree _ _).mpr held, rfl⟩
        | succ place =>
            exact .inr ⟨place, other, inner, by rw [Nat.add_right_comm, Nat.add_assoc], atPlace,
              held⟩

end

mutual

private theorem Tree.pairwise_placedScripts : ∀ tree : Tree,
    tree.placedScripts.Pairwise (fun earlier later => earlier.1 < later.1)
  | .text _ => by
      rw [Tree.placedScripts]
      exact .nil
  | .element name attributes children _ => by
      rw [Tree.placedScripts]
      by_cases isScript : name.isScript
      · rw [if_pos isScript]
        exact List.pairwise_singleton _ _
      · rw [if_neg isScript]
        exact Tree.pairwise_placedScriptsFrom 0 children

private theorem Tree.pairwise_placedScriptsFrom : ∀ (number : Nat) (trees : List Tree),
    (Tree.placedScriptsFrom number trees).Pairwise (fun earlier later => earlier.1 < later.1)
  | _, [] => by
      rw [Tree.placedScriptsFrom]
      exact .nil
  | number, tree :: rest => by
      rw [Tree.placedScriptsFrom, List.pairwise_append, List.pairwise_map]
      refine ⟨?_, Tree.pairwise_placedScriptsFrom (number + 1) rest, ?_⟩
      · apply (Tree.pairwise_placedScripts tree).imp
        intro earlier later before
        exact List.cons_lt_cons_self.mpr before
      · -- Addresses in a later tree begin with a greater number.
        intro earlier isEarlier later isLater
        obtain ⟨placed, _, rfl⟩ := List.mem_map.mp isEarlier
        obtain ⟨place, _, inner, isAt, _⟩ :=
          (Tree.mem_placedScriptsFrom (number + 1) rest later.1 later.2).mp isLater
        rw [isAt]
        exact List.Lex.rel (by omega)

end

theorem runsType_iff (value : List Char) :
    runsType value ↔
      typeEssence value = [] ∨ ∃ type ∈ scriptTypes, typeEssence value = type.toList := by
  rw [runsType, Bool.or_eq_true, List.isEmpty_iff, List.any_eq_true]
  simp only [beq_iff_eq, eq_comm (a := typeEssence value)]

namespace ScriptElement

/-- That an element has no source, and no type or one whose essence is empty or the type of a
script. -/
def Executes (script : ScriptElement) : Prop :=
  (∀ item ∈ script.attributes, item.name ≠ "src") ∧
  ∀ value, script.type? = some value →
    typeEssence value = [] ∨ ∃ type ∈ scriptTypes, typeEssence value = type.toList

theorem runs_iff (script : ScriptElement) : script.runs ↔ script.Executes := by
  have source : (!script.attributes.any (·.name == "src")) = true ↔
      ∀ item ∈ script.attributes, item.name ≠ "src" := by
    simp
  rw [runs, runsInline, Bool.and_eq_true, source, Executes, type?]
  apply and_congr_right
  intro _
  cases script.attributes.reverse.find? (·.name == "type") with
  | none => simp
  | some item => simp [← runsType_iff]

theorem mem_and_name_of_find? {attributes : List Attribute} {item : Attribute}
    (found : attributes.reverse.find? (·.name == "type") = some item) :
    item ∈ attributes ∧ item.name = "type" := by
  have named : (item.name == "type") = true :=
    List.find?_some (p := fun item : Attribute => item.name == "type") found
  exact ⟨List.mem_reverse.mp (List.mem_of_find?_eq_some found), beq_iff_eq.mp named⟩

theorem type?_eq_some_iff {script : ScriptElement}
    (distinct : (script.attributes.map (·.name)).Nodup) (value : List Char) :
    script.type? = some value ↔ (⟨"type", value⟩ : Attribute) ∈ script.attributes := by
  rw [type?, Option.map_eq_some_iff]
  constructor
  · rintro ⟨item, found, rfl⟩
    obtain ⟨isItem, named⟩ := mem_and_name_of_find? found
    rw [← named]
    exact isItem
  · intro isAttribute
    have isFound : (script.attributes.reverse.find? (·.name == "type")).isSome := by
      rw [List.find?_isSome]
      exact ⟨_, List.mem_reverse.mpr isAttribute, rfl⟩
    obtain ⟨item, found⟩ := Option.isSome_iff_exists.mp isFound
    obtain ⟨isItem, named⟩ := mem_and_name_of_find? found
    have same : item = ⟨"type", value⟩ :=
      List.inj_on_of_nodup_map distinct isItem isAttribute named
    exact ⟨item, found, by rw [same]⟩

end ScriptElement

/-- The inline scripts of trees are the texts of the script elements in them that run, each
once, in document order.  Which type an element gives does not depend on the order of its
attributes. -/
theorem inlineScriptsOf_documentOrder (trees : List Tree) :
    (∃ placed : List (List Nat × ScriptElement),
      placed.Pairwise (fun earlier later => earlier.1 < later.1) ∧
      (∀ address script, (address, script) ∈ placed ↔
        HoldScript trees address script ∧ script.Executes) ∧
      Tree.inlineScriptsOf trees = placed.map (·.2.text)) ∧
    ∀ script : ScriptElement, (script.attributes.map (·.name)).Nodup →
      ∀ value, script.type? = some value ↔
        (⟨"type", value⟩ : Attribute) ∈ script.attributes := by
  refine ⟨⟨(Tree.placedScriptsFrom 0 trees).filter (·.2.runs), ?_, ?_, ?_⟩, ?_⟩
  · exact (Tree.pairwise_placedScriptsFrom 0 trees).filter _
  · intro address script
    rw [List.mem_filter, Tree.mem_placedScriptsFrom, ScriptElement.runs_iff]
    simp only [Nat.zero_add, HoldScript]
  · rw [Tree.inlineScriptsOf_eq_map, ← Tree.map_placedScriptsFrom 0 trees, List.filter_map,
      List.map_map]
    rfl
  · intro script distinct value
    exact ScriptElement.type?_eq_some_iff distinct value

def drawnScript : ScriptElement :=
  ⟨[⟨"type", "Text/JavaScript ; x".toList⟩, ⟨"id", "a".toList⟩], "a( )".toList⟩

def drawnTrees : List Tree :=
  [.element ⟨.html, "template"⟩ [] [] [.element ⟨.html, "script"⟩ [] [.text "b".toList] []],
    .element ⟨.svg, "svg"⟩ []
      [.text "c".toList,
        .element ⟨.svg, "Script"⟩ drawnScript.attributes
          [.text "a(".toList, .text " )".toList] []] [],
    .element ⟨.html, "script"⟩ [⟨"type", "application/json".toList⟩] [.text "0".toList] [],
    .element ⟨.html, "script"⟩ [⟨"type", [' ']⟩] [.text "d".toList] []]

theorem inlineScriptsOf_documentOrder_drawnTrees :
    ∃ placed : List (List Nat × ScriptElement),
      placed.Pairwise (fun earlier later => earlier.1 < later.1) ∧
      ([1, 1], drawnScript) ∈ placed ∧
      placed.map (·.2.text) = ["a( )".toList, "d".toList] ∧
      drawnScript.type? = some "Text/JavaScript ; x".toList := by
  obtain ⟨⟨placed, ordered, placedIff, texts⟩, typeIff⟩ :=
    inlineScriptsOf_documentOrder drawnTrees
  refine ⟨placed, ordered, ?_, ?_, ?_⟩
  · apply (placedIff [1, 1] drawnScript).mpr
    have held : HoldScript drawnTrees [1, 1] drawnScript :=
      ⟨1, _, [1], rfl, rfl, .inner (by decide) rfl (.self (by decide))⟩
    exact ⟨held, drawnScript.runs_iff.mp (by decide)⟩
  · rw [← texts]
    decide +kernel
  · apply (typeIff drawnScript (by decide) _).mpr
    exact List.mem_cons_self

end EditionGuard.Markup
