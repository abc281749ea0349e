import EditionGuard.Proofs.Gate.Accepted
import EditionGuard.Proofs.Text.Search

/-!
# Commas that close a list

What a construct asks for is the same at every place, but for one thing: a comma after the
last parameter or argument, which the gate looks for in the text between this last item and
the end of the list.  Comments stand in this text too.

So texts that are read to one tree, but for its places, pass the same editions from ES2017
on, whatever their comments say.  Below ES2017 they do unless one of them has a comma before
the end of a list and the other has none, be this comma in a comment.
-/

namespace EditionGuard

/-! ## Trees without places -/

namespace Script.Node

mutual

def unplaced : Node → Node
  | .mk construct _ parts => .mk construct ⟨0, 0⟩ (allUnplaced parts)

def allUnplaced : List Node → List Node
  | [] => []
  | tree :: rest => unplaced tree :: allUnplaced rest

end

theorem allUnplaced_eq_map (trees : List Node) : allUnplaced trees = trees.map unplaced := by
  induction trees with
  | nil => rfl
  | cons tree rest inductionHypothesis => rw [allUnplaced, inductionHypothesis, List.map_cons]

@[simp]
theorem unplaced_mk (construct : Construct) (span : Span) (parts : List Node) :
    (Node.mk construct span parts).unplaced = .mk construct ⟨0, 0⟩ (parts.map unplaced) := by
  rw [unplaced, allUnplaced_eq_map]

@[simp]
theorem construct_unplaced (tree : Node) : tree.unplaced.construct = tree.construct := by
  cases tree
  rw [unplaced_mk]
  rfl

mutual

def decideEq : (left right : Node) → Decidable (left = right)
  | .mk construct span parts, .mk construct' span' parts' =>
    have : Decidable (parts = parts') := decideAllEq parts parts'
    decidable_of_iff (construct = construct' ∧ span = span' ∧ parts = parts') (by simp)

def decideAllEq : (left right : List Node) → Decidable (left = right)
  | [], [] => .isTrue rfl
  | [], _ :: _ => .isFalse (by simp)
  | _ :: _, [] => .isFalse (by simp)
  | tree :: rest, tree' :: rest' =>
    have : Decidable (tree = tree') := decideEq tree tree'
    have : Decidable (rest = rest') := decideAllEq rest rest'
    decidable_of_iff (tree = tree' ∧ rest = rest') (by simp)

end

instance : DecidableEq Node := decideEq

end Script.Node

namespace Gate

open EditionGuard.Script

variable {code other : List Char} {target : Edition} {goal : Goal} {tree node : Node}
  {around : List Construct}

theorem Occurs.unplaced (occurs : Occurs tree around node) :
    Occurs tree.unplaced around node.unplaced := by
  induction occurs with
  | root => exact .root
  | part _ partMember inductionHypothesis =>
      rw [Node.unplaced_mk] at inductionHypothesis
      exact inductionHypothesis.part (List.mem_map_of_mem partMember)

theorem Occurs.exists_of_unplaced (occurs : Occurs tree.unplaced around node) :
    ∃ placed, Occurs tree around placed ∧ placed.unplaced = node := by
  induction occurs with
  | root => exact ⟨tree, .root, rfl⟩
  | part _ partMember inductionHypothesis =>
      obtain ⟨⟨construct, span, parts⟩, occursPlaced, same⟩ := inductionHypothesis
      rw [Node.unplaced_mk] at same
      obtain ⟨rfl, _, rfl⟩ := Node.mk.inj same
      obtain ⟨part, placedMember, rfl⟩ := List.mem_map.mp partMember
      exact ⟨part, occursPlaced.part placedMember, rfl⟩

/-! ## The ends of lists -/

/-- What stands between the last parameter or argument and the end of the list, and the
feature that a comma there is. -/
def listEnd? : Node → Option (Feature × Span)
  | .mk .formalParameters span parts =>
    if parts.any (·.construct == .restElement) then none
    else parts.getLast?.map fun last => (.parameterComma, ⟨last.span.stop, span.stop⟩)
  | .mk (.call _) span (_ :: arguments) =>
    arguments.getLast?.map fun last => (.argumentComma, ⟨last.span.stop, span.stop⟩)
  | .mk .newExpression span (_ :: arguments) =>
    arguments.getLast?.map fun last => (.argumentComma, ⟨last.span.stop, span.stop⟩)
  | _ => none

def holdsComma (code : List Char) (stretch : Span) : Bool :=
  (Text.slice code stretch.start stretch.stop).any (·.contains ',')

def commaWithin (code : List Char) : Option (Feature × Span) → List Feature
  | some (feature, stretch) => if holdsComma code stretch then [feature] else []
  | none => []

def closingComma (code : List Char) (node : Node) : List Feature :=
  commaWithin code (listEnd? node)

def commaBehind (code : List Char) (items : List Node) (stop : Nat) (feature : Feature) :
    List Requirement :=
  match items.getLast? with
  | some last => commaRequirement code last.span.stop stop feature
  | none => []

/-- The features that some requirements are about. -/
abbrev features (requirements : List Requirement) : List Feature :=
  requirements.map Requirement.feature

theorem features_commaRequirement (code : List Char) (start stop : Nat) (feature : Feature) :
    features (commaRequirement code start stop feature) =
      if holdsComma code ⟨start, stop⟩ then [feature] else [] := by
  unfold commaRequirement holdsComma
  cases Text.slice code start stop with
  | none => rfl
  | some between =>
      rw [Option.bind_some, Option.any_some, Text.findBytes_singleton]
      by_cases comma : ',' ∈ between <;> simp [comma, features]

theorem features_commaBehind (code : List Char) (items : List Node) (stop : Nat)
    (feature : Feature) :
    features (commaBehind code items stop feature) =
      features (commaBehind [] (items.map Node.unplaced) 0 feature) ++
        commaWithin code (items.getLast?.map fun last => (feature, ⟨last.span.stop, stop⟩)) := by
  rw [commaBehind, commaBehind, List.getLast?_map]
  cases items.getLast? with
  | none => rfl
  | some last =>
      obtain ⟨construct, span, parts⟩ := last
      rw [Option.map_some, Node.unplaced_mk]
      exact features_commaRequirement code span.stop stop feature

/-- What a node asks for is what it asks for without places and text, and with it the comma
before the end of its list. -/
theorem features_own (code : List Char) (depth : Nat) (node : Node) :
    features (ownRequirements code depth node) =
      features (ownRequirements [] depth node.unplaced) ++ closingComma code node := by
  obtain ⟨construct, span, parts⟩ := node
  rw [Node.unplaced_mk]
  -- Most constructs ask for the same whatever their parts; the others are looked into.
  cases construct <;> try rfl
  case variableDeclaration kind => cases kind <;> rfl
  case functionLike isAsync isGenerator => cases isAsync <;> cases isGenerator <;> rfl
  case forOfLoop flag | catchClause flag | formalParameter flag => cases flag <;> rfl
  case property isComputed isMethod isShorthand =>
    cases isComputed <;> cases isMethod <;> cases isShorthand <;> rfl
  case importDeclaration | exportNamed =>
    simp only [ownRequirements, attributeRequirement, List.find?_map, Function.comp_def,
      Node.construct_unplaced]
    cases parts.find? (·.construct == .withClause) <;> rfl
  case exportAll named =>
    simp only [ownRequirements, attributeRequirement, List.find?_map, Function.comp_def,
      Node.construct_unplaced]
    cases named <;> cases parts.find? (·.construct == .withClause) <;> rfl
  case objectPattern =>
    simp only [ownRequirements, List.find?_map, Function.comp_def, Node.construct_unplaced]
    cases parts.find? (·.construct == .restElement) <;> rfl
  case objectTarget =>
    simp only [ownRequirements, List.any_map, Function.comp_def, Node.construct_unplaced]
    cases parts.any (·.construct == .targetRest) <;> rfl
  case objectLiteral =>
    simp [ownRequirements, closingComma, listEnd?, commaWithin, List.filter_map,
      Function.comp_def]
  case numericLiteral raw =>
    simp only [ownRequirements]
    cases isRadixLiteral raw <;> cases raw.contains '_' <;> rfl
  case bigintLiteral raw =>
    simp only [ownRequirements]
    cases raw.contains '_' <;> rfl
  case stringLiteral raw =>
    simp only [ownRequirements]
    cases Text.occurs ['\\', 'u', '{'] raw <;> rfl
  case regexLiteral raw =>
    simp [ownRequirements, closingComma, listEnd?, commaWithin, Function.comp_def]
  case arrowFunction flag | memberAccess flag | indexAccess flag | privateAccess flag =>
    rcases parts with _ | ⟨first, _ | ⟨second, _ | ⟨third, rest⟩⟩⟩
    · rfl
    · rfl
    · cases flag <;> rfl
    · rfl
  case binary operator =>
    by_cases power : operator = .punctuator .power
    · subst power
      rcases parts with _ | ⟨first, _ | ⟨second, _ | ⟨third, rest⟩⟩⟩ <;> rfl
    · simp [ownRequirements, closingComma, listEnd?, commaWithin, power]
  case logical operator =>
    by_cases coalesce : operator = .punctuator .coalesce
    · subst coalesce
      rcases parts with _ | ⟨first, _ | ⟨second, _ | ⟨third, rest⟩⟩⟩ <;> rfl
    · simp [ownRequirements, closingComma, listEnd?, commaWithin, coalesce]
  case assignment operator =>
    rcases parts with _ | ⟨first, _ | ⟨second, _ | ⟨third, rest⟩⟩⟩
    · rfl
    · rfl
    · simp only [ownRequirements, List.map_cons, List.map_nil]
      cases datedAssignment? operator <;> rfl
    · rfl
  case formalParameters =>
    simp only [ownRequirements, closingComma, listEnd?, List.any_map, Function.comp_def,
      Node.construct_unplaced]
    cases parts.any (·.construct == .restElement) with
    | true => rfl
    | false => exact features_commaBehind code parts span.stop .parameterComma
  case newExpression =>
    cases parts with
    | nil => rfl
    | cons callee arguments =>
        exact features_commaBehind code arguments span.stop .argumentComma
  case call isOptional =>
    cases parts with
    | nil => rfl
    | cons callee arguments =>
        have behind := features_commaBehind code arguments span.stop .argumentComma
        cases isOptional with
        | false => exact behind
        | true => exact congrArg (Feature.optionalChaining :: ·) behind

/-! ## Accepting without places -/

theorem forall_edition_le_iff {requirements : List Requirement} :
    (∀ requirement ∈ requirements, requirement.edition ≤ target) ↔
      ∀ feature ∈ features requirements, feature.introducedIn ≤ target := by
  rw [List.forall_mem_map]
  rfl

theorem introducedIn_of_listEnd? {feature : Feature} {stretch : Span}
    (ends : listEnd? node = some (feature, stretch)) : feature.introducedIn = .es2017 := by
  have sameFeature : ∀ {items : List Node} {closing : Feature} {stop : Nat},
      items.getLast?.map (fun last => (closing, (⟨last.span.stop, stop⟩ : Span))) =
        some (feature, stretch) → closing = feature := by
    intro items closing stop found
    obtain ⟨last, _, same⟩ := Option.map_eq_some_iff.mp found
    exact (Prod.mk.inj same).1
  unfold listEnd? at ends
  split at ends
  · split at ends
    · cases ends
    · rw [← sameFeature ends]
      rfl
  · rw [← sameFeature ends]
    rfl
  · rw [← sameFeature ends]
    rfl
  · cases ends

/-- A comma before the end of a list is asked for from ES2017 on. -/
theorem closingComma_le_iff :
    (∀ feature ∈ closingComma code node, feature.introducedIn ≤ target) ↔
      (target < .es2017 → closingComma code node = []) := by
  unfold closingComma
  cases ends : listEnd? node with
  | none => simp [commaWithin]
  | some pair =>
      obtain ⟨feature, stretch⟩ := pair
      have introduced : feature.introducedIn = .es2017 := introducedIn_of_listEnd? ends
      rw [commaWithin]
      cases holdsComma code stretch with
      | false => simp
      | true => simp [introduced, ← Edition.not_le_iff_lt]

theorem ownRequirements_le_iff {depth : Nat} :
    (∀ requirement ∈ ownRequirements code depth node, requirement.edition ≤ target) ↔
      (∀ requirement ∈ ownRequirements [] depth node.unplaced,
        requirement.edition ≤ target) ∧
      (target < .es2017 → closingComma code node = []) := by
  rw [forall_edition_le_iff, forall_edition_le_iff, features_own, List.forall_mem_append,
    closingComma_le_iff]

/-- Whether some list in a tree has a comma before its end. -/
def ClosesByComma (code : List Char) (tree : Node) : Prop :=
  ∃ around node, Occurs tree around node ∧ closingComma code node ≠ []

/-- A tree asks for what it asks for without places, and for commas that close lists. -/
theorem asksWithin_iff_unplaced :
    AsksWithin target code tree ↔
      AsksWithin target [] tree.unplaced ∧
        (target < .es2017 → ¬ ClosesByComma code tree) := by
  constructor
  · intro within
    refine ⟨?_, ?_⟩
    · intro around bare occurs
      obtain ⟨node, occursPlaced, rfl⟩ := occurs.exists_of_unplaced
      exact (ownRequirements_le_iff.mp (within around node occursPlaced)).1
    · rintro below ⟨around, node, occurs, comma⟩
      exact comma ((ownRequirements_le_iff.mp (within around node occurs)).2 below)
  · rintro ⟨bareWithin, noComma⟩ around node occurs
    refine ownRequirements_le_iff.mpr ⟨bareWithin around node.unplaced occurs.unplaced, ?_⟩
    intro below
    by_contra comma
    exact noComma below ⟨around, node, occurs, comma⟩

/-- Whether a text is read to a tree with a list that has a comma before its end. -/
def HoldsClosingComma (goal : Goal) (code : List Char) : Prop :=
  ∃ tree, Script.read goal code = .ok tree ∧ ClosesByComma code tree

theorem holdsClosingComma_iff (read : Script.read goal code = .ok tree) :
    HoldsClosingComma goal code ↔ ClosesByComma code tree := by
  constructor
  · rintro ⟨same, readSame, closes⟩
    obtain rfl : tree = same := Except.ok.inj (read.symm.trans readSame)
    exact closes
  · intro closes
    exact ⟨tree, read, closes⟩

/-- Whether a text is read to a tree that asks, without its places, for no more than the
target has. -/
def ConstructsWithin (target : Edition) (goal : Goal) (code : List Char) : Prop :=
  ∃ bare, (Script.read goal code).toOption.map Node.unplaced = some bare ∧
    AsksWithin target [] bare

theorem constructsWithin_iff (read : Script.read goal code = .ok tree) :
    ConstructsWithin target goal code ↔ AsksWithin target [] tree.unplaced := by
  rw [ConstructsWithin, read]
  simp [Except.toOption]

/-- A text is accepted for its constructs, wherever they stand, unless a comma before the end
of a list is too new. -/
theorem check_eq_none_iff_constructsWithin :
    check code target goal = none ↔
      ConstructsWithin target goal code ∧
        (target < .es2017 → ¬ HoldsClosingComma goal code) := by
  rw [check_eq_none_iff]
  cases read : Script.read goal code with
  | error diagnostic =>
      simp [ConstructsWithin, read, Except.toOption]
  | ok tree =>
      rw [constructsWithin_iff read, holdsClosingComma_iff read, ← asksWithin_iff_unplaced]
      simp

/-! ## Texts that are read alike -/

/-- Whether two texts are read to one tree, but for its places, or neither is read.  It is
assumed of the grammar, and not derived from `Script.read`, that texts with the same tokens
which differ in their comments are read alike. -/
def ReadAlike (goal : Goal) (code other : List Char) : Prop :=
  (Script.read goal code).toOption.map Node.unplaced =
    (Script.read goal other).toOption.map Node.unplaced

instance (goal : Goal) (code other : List Char) : Decidable (ReadAlike goal code other) :=
  inferInstanceAs (Decidable (_ = _))

theorem ReadAlike.constructsWithin_iff (alike : ReadAlike goal code other) :
    ConstructsWithin target goal code ↔ ConstructsWithin target goal other := by
  rw [ConstructsWithin, alike, ConstructsWithin]

/-- Of two texts that are read alike each is accepted if the target has the constructs of the
other, unless a comma before the end of a list is too new.  So from ES2017 on one is accepted
if and only if the other is, and on each edition if both have such a comma or none has. -/
theorem check_of_readAlike (alike : ReadAlike goal code other) :
    (∀ target, ConstructsWithin target goal code →
      (check other target goal = none ↔
        (target < .es2017 → ¬ HoldsClosingComma goal other))) ∧
    (∀ target, .es2017 ≤ target →
      (check code target goal = none ↔ check other target goal = none)) ∧
    ((HoldsClosingComma goal code ↔ HoldsClosingComma goal other) →
      ∀ target, (check code target goal = none ↔ check other target goal = none)) := by
  refine ⟨?_, ?_, ?_⟩
  · intro target within
    rw [check_eq_none_iff_constructsWithin, ← alike.constructsWithin_iff]
    exact and_iff_right within
  · intro target notBelow
    have vacuous : ∀ text, target < .es2017 → ¬ HoldsClosingComma goal text := by
      intro text below
      exact absurd notBelow (Edition.not_le_iff_lt.mpr below)
    rw [check_eq_none_iff_constructsWithin, check_eq_none_iff_constructsWithin,
      alike.constructsWithin_iff]
    exact and_congr_right fun _ => iff_of_true (vacuous code) (vacuous other)
  · intro sameCommas target
    rw [check_eq_none_iff_constructsWithin, check_eq_none_iff_constructsWithin,
      alike.constructsWithin_iff, sameCommas]

/-- From ES2017 on a comma in a comment does not matter. -/
theorem check_of_readAlike_commentedCall :
    ReadAlike .script "f(a /* - */);".toList "f(a /* , */);".toList ∧
      check "f(a /* , */);".toList .es2017 .script = none := by
  have alike : ReadAlike .script "f(a /* - */);".toList "f(a /* , */);".toList := by
    decide +kernel
  have accepted : check "f(a /* - */);".toList .es2017 .script = none := by decide +kernel
  exact ⟨alike, ((check_of_readAlike alike).2.1 .es2017 (by decide)).mp accepted⟩

/-- Below ES2017 it does: of two texts that are read alike and differ in a comment only, one
is accepted and one refused. -/
theorem refuses_for_comment :
    ReadAlike .script "f(a /* - */);".toList "f(a /* , */);".toList ∧
      check "f(a /* - */);".toList .es5 .script = none ∧
      check "f(a /* , */);".toList .es5 .script =
        some ⟨"Unexpected token: trailing comma in arguments requires es2017", 7, ⟨1, 7⟩⟩ := by
  refine ⟨?_, ?_, ?_⟩
  · decide +kernel
  · decide +kernel
  · decide +kernel

end Gate

end EditionGuard
