import EditionGuard.Proofs.Gate.Accepted

/-!
# Attributes of imports

Import declarations and the exports that name a module ask for ES2025 if a clause of attributes
stands with them, so below ES2025 no accepted text holds such a clause.  A call of `import` takes
attributes as a second argument, and asks for ES2020 with or without it: such a call passes with
its attributes from ES2020 on.
-/

namespace EditionGuard.Gate

open EditionGuard.Script

variable {code : List Char} {target : Edition} {goal : Goal} {tree node : Node}
  {around : List Construct} {construct : Construct} {span : Span} {parts : List Node}

/-- The statements with which a clause of attributes may stand. -/
def takesClause : Construct → Bool
  | .importDeclaration | .exportNamed | .exportAll _ => true
  | _ => false

/-- Whether attributes stand with a node: a clause in a statement, a second argument in a call. -/
def CarriesAttributes : Node → Prop
  | .mk construct _ parts =>
    (takesClause construct = true ∧ ∃ part ∈ parts, part.construct = .withClause) ∨
      (construct = .importCall ∧ 2 ≤ parts.length)

theorem exists_mem_attributeRequirement {part : Node} (member : part ∈ parts)
    (isClause : part.construct = .withClause) :
    ∃ offset, (⟨offset, .importAttributes⟩ : Requirement) ∈ attributeRequirement parts := by
  rw [attributeRequirement]
  cases found : parts.find? (·.construct == .withClause) with
  | none =>
      have noClause := List.find?_eq_none.mp found part member
      exact absurd (beq_iff_eq.mpr isClause) noClause
  | some clause => exact ⟨clause.span.start, List.mem_singleton_self _⟩

theorem attributeRequirement_subset (takes : takesClause construct = true)
    (around : List Construct) (span : Span) :
    attributeRequirement parts ⊆
      Occurrence.requirements code ⟨around, .mk construct span parts⟩ := by
  unfold takesClause at takes
  split at takes
  · exact List.subset_append_left _ _
  · exact List.subset_append_left _ _
  · exact List.Subset.trans (List.subset_append_right _ _) (List.subset_append_left _ _)
  · cases takes

/-- A call of `import` asks for itself alone, whatever its arguments are. -/
theorem requirements_importCall (code : List Char) (around : List Construct) (span : Span)
    (parts : List Node) :
    Occurrence.requirements code ⟨around, .mk .importCall span parts⟩ =
      [⟨span.start, .dynamicImport⟩] :=
  rfl

theorem AsksWithin.not_clause (within : AsksWithin target code tree) (below : target < .es2025)
    (occurs : Occurs tree around (.mk construct span parts))
    (takes : takesClause construct = true) : ∀ part ∈ parts, part.construct ≠ .withClause := by
  intro part member isClause
  obtain ⟨offset, asked⟩ := exists_mem_attributeRequirement member isClause
  have met := within around _ occurs _ (attributeRequirement_subset takes around span asked)
  exact Edition.not_le_iff_lt.mpr below met

/-- In a text that is accepted below ES2025 attributes stand with calls of `import` only, and only
from ES2020 on.  Such a call asks for ES2020 and nothing more, with attributes as without. -/
theorem importAttributes_in_calls (below : target < .es2025)
    (accepted : check code target goal = none) :
    ∃ tree, Script.read goal code = .ok tree ∧
      (∀ around node, Occurs tree around node → CarriesAttributes node →
        node.construct = .importCall ∧ .es2020 ≤ target) ∧
      ∀ around node, Occurs tree around node → node.construct = .importCall →
        Occurrence.requirements code ⟨around, node⟩ = [⟨node.span.start, .dynamicImport⟩] := by
  obtain ⟨tree, read, within⟩ := check_eq_none_iff.mp accepted
  refine ⟨tree, read, ?_, ?_⟩
  · rintro around ⟨construct, span, parts⟩ occurs (⟨takes, part, member, isClause⟩ | ⟨rfl, _⟩)
    · exact absurd isClause (within.not_clause below occurs takes part member)
    · have asked := within around _ occurs
      rw [requirements_importCall] at asked
      exact ⟨rfl, asked _ (List.mem_singleton_self _)⟩
  · rintro around ⟨construct, span, parts⟩ occurs rfl
    exact requirements_importCall code around span parts

/-- A module with an import, both exports and a call of `import`, none of them with attributes. -/
def plainModule : List Char :=
  "import 'a'; export \x7bb\x7d from 'c'; export * from 'd'; import('e')".toList

theorem importAttributes_in_calls_plainModule :
    Edition.es2024 < .es2025 ∧ check plainModule .es2024 .module = none ∧
      ∃ tree, Script.read .module plainModule = .ok tree ∧
        ∀ around node, Occurs tree around node → takesClause node.construct = true →
          ¬ CarriesAttributes node := by
  have accepted : check plainModule .es2024 .module = none := by decide +kernel
  obtain ⟨tree, read, carriers, _⟩ := importAttributes_in_calls (by decide) accepted
  refine ⟨by decide, accepted, tree, read, ?_⟩
  intro around node occurs takes carries
  have isCall := (carriers around node occurs carries).1
  rw [isCall] at takes
  cases takes

/-- A call of `import` passes at ES2024 with its attributes. -/
theorem accepts_importCall_with_attributes :
    check "import('a', b)".toList .es2024 .module = none ∧
      ∃ tree, Script.read .module "import('a', b)".toList = .ok tree ∧
        ∃ around node, Occurs tree around node ∧ node.construct = .importCall ∧
          CarriesAttributes node := by
  refine ⟨by decide +kernel, ?_⟩
  obtain ⟨tree, read, holdsCall⟩ := exists_read_of_any
    (fun tree => (occurrences [] tree).any fun occurrence =>
      occurrence.node.construct == .importCall && decide (2 ≤ occurrence.node.parts.length))
    (by decide +kernel :
      (Script.read .module "import('a', b)".toList).toOption.any _ = true)
  obtain ⟨around, ⟨construct, span, parts⟩, occurs, passes⟩ := any_occurrences_iff.mp holdsCall
  obtain ⟨isCall, several⟩ := Bool.and_eq_true_iff.mp passes
  have callNode : construct = .importCall := beq_iff_eq.mp isCall
  have secondArgument : 2 ≤ parts.length := of_decide_eq_true several
  exact ⟨tree, read, around, .mk construct span parts, occurs, callNode,
    .inr ⟨callNode, secondArgument⟩⟩

end EditionGuard.Gate
