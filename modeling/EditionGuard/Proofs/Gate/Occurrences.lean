import EditionGuard.Proofs.Gate.EarliestUnmet

/-!
# Requirements at every depth

The nodes of a tree are listed with the constructs around them, a node before its parts and
the parts in order.  A node stands in this list if and only if it is reached from the root
by going from nodes to their parts.

What a tree requires is what its listed nodes ask for, where the number of functions around
a node is counted among the constructs around it.  So the first violation is the earliest
unmet requirement of the whole tree, and nothing that stands deep in it escapes.
-/

namespace EditionGuard.Gate

open EditionGuard.Script

/-- A node of a tree, with the constructs around it, the nearest first. -/
structure Occurrence where
  around : List Construct
  node : Node
deriving Repr, Inhabited

def Occurrence.requirements (code : List Char) (occurrence : Occurrence) : List Requirement :=
  ownRequirements code (occurrence.around.countP isFunctionScope) occurrence.node

mutual

/-- The nodes of a tree with constructs around it: a node before its parts, the parts in
order. -/
def occurrences (around : List Construct) : Node → List Occurrence
  | .mk construct span parts =>
    ⟨around, .mk construct span parts⟩ :: occurrencesOfAll (construct :: around) parts

def occurrencesOfAll (around : List Construct) : List Node → List Occurrence
  | [] => []
  | tree :: rest => occurrences around tree ++ occurrencesOfAll around rest

end

/-- Whether a node stands anywhere in a tree, below the given constructs. -/
inductive Occurs (tree : Node) : List Construct → Node → Prop
  | root : Occurs tree [] tree
  | part {around : List Construct} {construct : Construct} {span : Span}
      {parts : List Node} {part : Node} :
      Occurs tree around (.mk construct span parts) → part ∈ parts →
        Occurs tree (construct :: around) part

theorem mem_occurrences_self (around : List Construct) (tree : Node) :
    (⟨around, tree⟩ : Occurrence) ∈ occurrences around tree := by
  cases tree with
  | mk construct span parts =>
      rw [occurrences]
      exact List.mem_cons_self

theorem mem_occurrencesOfAll_iff {occurrence : Occurrence} {around : List Construct}
    {trees : List Node} :
    occurrence ∈ occurrencesOfAll around trees ↔
      ∃ tree ∈ trees, occurrence ∈ occurrences around tree := by
  induction trees with
  | nil => simp [occurrencesOfAll]
  | cons tree rest inductionHypothesis =>
      rw [occurrencesOfAll, List.mem_append, inductionHypothesis]
      simp

mutual

private theorem occurs_of_mem_occurrences {root : Node} :
    ∀ (tree : Node) (around : List Construct), Occurs root around tree →
      ∀ occurrence ∈ occurrences around tree, Occurs root occurrence.around occurrence.node
  | .mk construct span parts, around, reached => by
      intro occurrence member
      rw [occurrences] at member
      rcases List.mem_cons.mp member with rfl | below
      · exact reached
      · exact occurs_of_mem_occurrencesOfAll parts (construct :: around)
          (fun part partMember => reached.part partMember) occurrence below

private theorem occurs_of_mem_occurrencesOfAll {root : Node} :
    ∀ (trees : List Node) (around : List Construct),
      (∀ tree ∈ trees, Occurs root around tree) →
      ∀ occurrence ∈ occurrencesOfAll around trees,
        Occurs root occurrence.around occurrence.node
  | [], _, _ => by simp [occurrencesOfAll]
  | tree :: rest, around, reached => by
      intro occurrence member
      rw [occurrencesOfAll] at member
      rcases List.mem_append.mp member with inTree | inRest
      · exact occurs_of_mem_occurrences tree around
          (reached tree List.mem_cons_self) occurrence inTree
      · exact occurs_of_mem_occurrencesOfAll rest around
          (fun other otherMember => reached other (List.mem_cons_of_mem tree otherMember))
          occurrence inRest

end

mutual

private theorem part_mem_occurrences {inner : List Construct} {construct : Construct}
    {span : Span} {parts : List Node} {part : Node} (partMember : part ∈ parts) :
    ∀ (tree : Node) (around : List Construct),
      ⟨inner, .mk construct span parts⟩ ∈ occurrences around tree →
        ⟨construct :: inner, part⟩ ∈ occurrences around tree
  | .mk outer outerSpan outerParts, around, member => by
      rw [occurrences] at member ⊢
      refine List.mem_cons_of_mem _ ?_
      rcases List.mem_cons.mp member with isSelf | below
      · cases isSelf
        exact mem_occurrencesOfAll_iff.mpr ⟨part, partMember, mem_occurrences_self _ part⟩
      · exact part_mem_occurrencesOfAll partMember outerParts (outer :: around) below

private theorem part_mem_occurrencesOfAll {inner : List Construct} {construct : Construct}
    {span : Span} {parts : List Node} {part : Node} (partMember : part ∈ parts) :
    ∀ (trees : List Node) (around : List Construct),
      ⟨inner, .mk construct span parts⟩ ∈ occurrencesOfAll around trees →
        ⟨construct :: inner, part⟩ ∈ occurrencesOfAll around trees
  | [], _, member => by simp [occurrencesOfAll] at member
  | tree :: rest, around, member => by
      rw [occurrencesOfAll] at member ⊢
      rcases List.mem_append.mp member with inTree | inRest
      · exact List.mem_append_left _ (part_mem_occurrences partMember tree around inTree)
      · exact List.mem_append_right _
          (part_mem_occurrencesOfAll partMember rest around inRest)

end

theorem mem_occurrences_iff {tree node : Node} {around : List Construct} :
    ⟨around, node⟩ ∈ occurrences [] tree ↔ Occurs tree around node := by
  constructor
  · intro member
    exact occurs_of_mem_occurrences tree [] .root ⟨around, node⟩ member
  · intro occurs
    induction occurs with
    | root => exact mem_occurrences_self [] tree
    | part _ partMember inductionHypothesis =>
        exact part_mem_occurrences partMember tree [] inductionHypothesis

theorem innerDepth_countP (construct : Construct) (around : List Construct) :
    innerDepth construct (around.countP isFunctionScope) =
      (construct :: around).countP isFunctionScope := by
  rw [innerDepth, List.countP_cons]
  split <;> rfl

mutual

theorem requirements_eq_flatMap (code : List Char) :
    ∀ (tree : Node) (around : List Construct),
      requirements code (around.countP isFunctionScope) tree =
        (occurrences around tree).flatMap (Occurrence.requirements code)
  | .mk construct span parts, around => by
      rw [requirements, occurrences, List.flatMap_cons, innerDepth_countP,
        requirementsOfAll_eq_flatMap code parts]
      rfl

theorem requirementsOfAll_eq_flatMap (code : List Char) :
    ∀ (trees : List Node) (around : List Construct),
      requirementsOfAll code (around.countP isFunctionScope) trees =
        (occurrencesOfAll around trees).flatMap (Occurrence.requirements code)
  | [], _ => by
      rw [requirementsOfAll, occurrencesOfAll, List.flatMap_nil]
  | tree :: rest, around => by
      rw [requirementsOfAll, occurrencesOfAll, List.flatMap_append,
        requirements_eq_flatMap code tree, requirementsOfAll_eq_flatMap code rest]

end

def allRequirements (code : List Char) (tree : Node) : List Requirement :=
  (occurrences [] tree).flatMap (Occurrence.requirements code)

theorem requirements_eq_allRequirements (code : List Char) (tree : Node) :
    requirements code 0 tree = allRequirements code tree :=
  requirements_eq_flatMap code tree []

theorem mem_allRequirements_iff {code : List Char} {tree : Node}
    {requirement : Requirement} :
    requirement ∈ allRequirements code tree ↔
      ∃ around node, Occurs tree around node ∧
        requirement ∈ Occurrence.requirements code ⟨around, node⟩ := by
  rw [allRequirements, List.mem_flatMap]
  constructor
  · rintro ⟨⟨around, node⟩, member, asks⟩
    exact ⟨around, node, mem_occurrences_iff.mp member, asks⟩
  · rintro ⟨around, node, occurs, asks⟩
    exact ⟨⟨around, node⟩, mem_occurrences_iff.mpr occurs, asks⟩

/-- Below `latest` the gate is complete and minimal: it is silent if and only if all that the
nodes of the tree ask for is met, and otherwise it answers with the earliest that is not.  A
node that asks for something unmet is never overlooked, whatever stands around it. -/
theorem firstViolation_earliest_of_allRequirements {target : Edition}
    (belowLatest : target < .latest) (tree : Node) (code : List Char) :
    (firstViolation tree code target = none ↔
      ∀ requirement ∈ allRequirements code tree, requirement.edition ≤ target) ∧
    (∀ violation, firstViolation tree code target = some violation ↔
      IsEarliestUnmet target (allRequirements code tree) violation) ∧
    (∀ requirement, requirement ∈ allRequirements code tree ↔
      ∃ around node, Occurs tree around node ∧
        requirement ∈ Occurrence.requirements code ⟨around, node⟩) ∧
    ∀ around node, Occurs tree around node →
      ∀ requirement ∈ Occurrence.requirements code ⟨around, node⟩,
        target < requirement.edition →
          ∃ violation, firstViolation tree code target = some violation ∧
            violation.offset ≤ requirement.offset := by
  have notLatest : target ≠ .latest := Edition.ne_latest_of_lt belowLatest
  have noneIff := firstViolation_eq_none_iff tree code notLatest
  have someIff : ∀ violation, firstViolation tree code target = some violation ↔
      IsEarliestUnmet target (requirements code 0 tree) violation :=
    fun _ => firstViolation_eq_some_iff tree code notLatest
  rw [requirements_eq_allRequirements] at noneIff someIff
  refine ⟨noneIff, someIff, fun _ => mem_allRequirements_iff, ?_⟩
  intro around node occurs requirement asks unmet
  have member : requirement ∈ allRequirements code tree :=
    mem_allRequirements_iff.mpr ⟨around, node, occurs, asks⟩
  cases found : firstViolation tree code target with
  | none =>
      exact (Edition.not_le_iff_lt.mpr unmet (noneIff.mp found requirement member)).elim
  | some violation =>
      exact ⟨violation, rfl, ((someIff violation).mp found).offset_le member unmet⟩

/-- A call whose argument is a template with a class in a substitution. -/
def classInTemplate : Node :=
  .mk (.call false) ⟨0, 15⟩
    [.leaf (.nameReference ['f']) ⟨0, 1⟩,
      .mk .templateLiteral ⟨2, 14⟩ [.mk .classLike ⟨5, 12⟩ [.leaf .classBody ⟨10, 12⟩]]]

/-- A class in a substitution of a template that is an argument does not escape. -/
theorem firstViolation_earliest_classInTemplate :
    Edition.es5 < .latest ∧
      ∃ violation,
        firstViolation classInTemplate "f(`$\x7bclass\x7b\x7d\x7d`)".toList .es5 = some violation ∧
          violation.offset ≤ 5 :=
  ⟨by decide,
    (firstViolation_earliest_of_allRequirements (by decide) classInTemplate _).2.2.2
      [.templateLiteral, .call false] (.mk .classLike ⟨5, 12⟩ [.leaf .classBody ⟨10, 12⟩])
      (.part (.part .root (.tail _ (.head _))) (.head _)) ⟨5, .classLike⟩ (by decide) (by decide)⟩

end EditionGuard.Gate
