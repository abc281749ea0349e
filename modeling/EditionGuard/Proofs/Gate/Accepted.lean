import EditionGuard.Gate.Verdict
import EditionGuard.Proofs.Gate.Occurrences

/-!
# Accepted texts

A text passes an edition if and only if it is read and every node of its tree asks only for
what the edition has.  So a construct that asks for something newer stands nowhere in an
accepted text.
-/

namespace EditionGuard.Gate

open EditionGuard.Script

variable {code : List Char} {target : Edition} {goal : Goal} {tree node : Node}
  {around : List Construct}

/-- Nothing that stands in a tree asks for what the target lacks. -/
def AsksWithin (target : Edition) (code : List Char) (tree : Node) : Prop :=
  ∀ around node, Occurs tree around node →
    ∀ requirement ∈ Occurrence.requirements code ⟨around, node⟩, requirement.edition ≤ target

theorem asksWithin_iff :
    AsksWithin target code tree ↔
      ∀ requirement ∈ allRequirements code tree, requirement.edition ≤ target := by
  constructor
  · intro within requirement member
    obtain ⟨around, node, occurs, asks⟩ := mem_allRequirements_iff.mp member
    exact within around node occurs requirement asks
  · intro allMet around node occurs requirement asks
    exact allMet requirement (mem_allRequirements_iff.mpr ⟨around, node, occurs, asks⟩)

theorem firstViolation_eq_none_iff_asksWithin :
    firstViolation tree code target = none ↔ AsksWithin target code tree := by
  by_cases onTop : target = .latest
  · subst onTop
    constructor
    · intro _ around node _ requirement _
      exact Edition.le_latest requirement.edition
    · intro _
      exact if_pos rfl
  · rw [firstViolation_eq_none_iff tree code onTop, requirements_eq_allRequirements,
      asksWithin_iff]

/-- Texts are accepted for their trees: nothing in them asks for more than the target has. -/
theorem check_eq_none_iff :
    check code target goal = none ↔
      ∃ tree, Script.read goal code = .ok tree ∧ AsksWithin target code tree := by
  rw [check]
  cases read : Script.read goal code with
  | error diagnostic => simp [failureOf]
  | ok tree =>
      rw [failureOf, Option.map_eq_none_iff, firstViolation_eq_none_iff_asksWithin]
      simp

theorem asksWithin_of_accepted (accepted : check code target goal = none)
    (read : Script.read goal code = .ok tree) : AsksWithin target code tree := by
  obtain ⟨same, readSame, within⟩ := check_eq_none_iff.mp accepted
  obtain rfl : tree = same := Except.ok.inj (read.symm.trans readSame)
  exact within

/-- Whether a node asks for a feature where it begins. -/
def Occurrence.Asks (code : List Char) (occurrence : Occurrence) (feature : Feature) : Prop :=
  ⟨occurrence.node.span.start, feature⟩ ∈ occurrence.requirements code

theorem AsksWithin.introducedIn_le (within : AsksWithin target code tree)
    (occurs : Occurs tree around node) {feature : Feature}
    (asks : Occurrence.Asks code ⟨around, node⟩ feature) : feature.introducedIn ≤ target :=
  within around node occurs _ asks

/-- A program with a node that asks for a feature is refused on the editions before it. -/
theorem check_ne_none_of_asks (read : Script.read goal code = .ok tree)
    (occurs : Occurs tree around node) {feature : Feature}
    (asks : Occurrence.Asks code ⟨around, node⟩ feature) (unmet : target < feature.introducedIn) :
    check code target goal ≠ none := by
  intro accepted
  have within := asksWithin_of_accepted accepted read
  exact Edition.not_le_iff_lt.mpr unmet (within.introducedIn_le occurs asks)

theorem exists_read_of_any (test : Node → Bool)
    (passes : (Script.read goal code).toOption.any test = true) :
    ∃ tree, Script.read goal code = .ok tree ∧ test tree = true := by
  cases read : Script.read goal code with
  | error diagnostic =>
      rw [read] at passes
      cases passes
  | ok tree =>
      rw [read] at passes
      exact ⟨tree, rfl, passes⟩

theorem any_occurrences_iff {test : Occurrence → Bool} :
    (occurrences [] tree).any test = true ↔
      ∃ around node, Occurs tree around node ∧ test ⟨around, node⟩ = true := by
  rw [List.any_eq_true]
  constructor
  · rintro ⟨⟨around, node⟩, member, passes⟩
    exact ⟨around, node, mem_occurrences_iff.mp member, passes⟩
  · rintro ⟨around, node, occurs, passes⟩
    exact ⟨⟨around, node⟩, mem_occurrences_iff.mpr occurs, passes⟩

end EditionGuard.Gate
