import EditionGuard.Gate.Verdict
import EditionGuard.Proofs.Gate.EarliestUnmet
import EditionGuard.Proofs.Gate.Wording
import EditionGuard.Proofs.Text.Boundary

/-!
# The ladder of editions

A text is checked on one edition after the other.  What no edition can read is refused on
every rung with the same failure.  Otherwise a higher rung demands less: its failures lie no
earlier, and a failure stays as it is up to the edition that it names.  So the editions that
accept a text are the upper part of the ladder.
-/

namespace EditionGuard

open EditionGuard.Script

namespace Gate

section Reading

variable {code : List Char} {target newer : Edition} {failure : Failure}

theorem failureOf_error (diagnostic : Diagnostic) (code : List Char) (target : Edition) :
    failureOf (.error diagnostic) code target =
      some (.atOffset code diagnostic.offset diagnostic.error.message) :=
  rfl

/-- A tree fails below `latest` with its earliest requirement that is not met. -/
theorem failureOf_ok_eq_some_iff {tree : Node} :
    failureOf (.ok tree) code target = some failure ↔
      ∃ violation, IsEarliestUnmet target (requirements code 0 tree) violation ∧
        Failure.atOffset code violation.offset violation.message = failure := by
  change (firstViolation tree code target).map _ = some failure ↔ _
  rw [Option.map_eq_some_iff]
  by_cases onTop : target = .latest
  · subst onTop
    constructor
    · rintro ⟨violation, found, _⟩
      simp [firstViolation] at found
    · rintro ⟨violation, earliest, _⟩
      exact (Edition.ne_latest_of_lt earliest.1 rfl).elim
  · simp only [firstViolation_eq_some_iff tree code onTop]

theorem failureOf_latest (tree : Node) (code : List Char) :
    failureOf (.ok tree) code .latest = none := by
  simp [failureOf, firstViolation]

/-- What fails on a newer edition fails on an older one, no later in the text. -/
theorem failureOf_older (read : Except Diagnostic Node) (noOlder : target ≤ newer)
    (failed : failureOf read code newer = some failure) :
    ∃ earlier, failureOf read code target = some earlier ∧
      earlier.byteOffset ≤ failure.byteOffset := by
  cases read with
  | error diagnostic =>
      exact ⟨failure, failed, Nat.le_refl _⟩
  | ok tree =>
      obtain ⟨violation, earliest, rfl⟩ := failureOf_ok_eq_some_iff.mp failed
      have unmet : target < violation.edition := Edition.lt_of_le_of_lt noOlder earliest.1
      cases found : firstViolation tree code target with
      | none =>
          have allMet := (firstViolation_eq_none_iff tree code
            (Edition.ne_latest_of_lt unmet)).mp found
          exact (Edition.not_le_iff_lt.mpr unmet (allMet violation earliest.mem)).elim
      | some other =>
          have otherEarliest := (firstViolation_eq_some_iff tree code
            (Edition.ne_latest_of_lt unmet)).mp found
          refine ⟨_, failureOf_ok_eq_some_iff.mpr ⟨other, otherEarliest, rfl⟩, ?_⟩
          exact Text.floorBoundary_mono code (otherEarliest.offset_le earliest.mem unmet)

theorem failureOf_until_needed (read : Except Diagnostic Node) {feature : String}
    {needed : Edition} (failed : failureOf read code target = some failure)
    (named : failure.message = violationMessage feature needed) :
    target < needed ∧
      ∀ between, target ≤ between → between < needed →
        failureOf read code between = some failure := by
  cases read with
  | error diagnostic =>
      have shown : Failure.atOffset code diagnostic.offset diagnostic.error.message =
          failure := Option.some.inj failed
      rw [← shown] at named
      exact (message_ne_violationMessage diagnostic.error feature needed named).elim
  | ok tree =>
      obtain ⟨violation, earliest, shown⟩ := failureOf_ok_eq_some_iff.mp failed
      have named' : violation.message = violationMessage feature needed := by
        rw [← named, ← shown]
        rfl
      rw [Requirement.message_eq] at named'
      have sameEdition : violation.edition = needed :=
        needed_eq_of_violationMessage_eq named'
      subst sameEdition
      refine ⟨earliest.1, ?_⟩
      intro between noOlder below
      exact failureOf_ok_eq_some_iff.mpr ⟨violation, earliest.of_le noOlder below, shown⟩

end Reading

/-- In a list along which a property persists, the elements that have it come last. -/
theorem filter_isSuffix_of_persistent {α : Type} {property : α → Bool} {items : List α}
    (persistent : items.Pairwise fun earlier later => property earlier → property later) :
    items.filter property <:+ items := by
  induction items with
  | nil => exact List.suffix_refl []
  | cons head tail inductionHypothesis =>
      obtain ⟨fromHead, inTail⟩ := List.pairwise_cons.mp persistent
      by_cases holds : property head
      · have allHold : (head :: tail).filter property = head :: tail := by
          rw [List.filter_eq_self]
          intro item member
          rcases List.mem_cons.mp member with rfl | later
          · exact holds
          · exact fromHead item later holds
        exact ⟨[], allHold⟩
      · rw [List.filter_cons_of_neg holds]
        exact (inductionHypothesis inTail).trans (List.suffix_cons head tail)

theorem accepting_isSuffix (code : List Char) (goal : Goal) :
    (Edition.all.filter fun edition => (check code edition goal).isNone) <:+ Edition.all := by
  apply filter_isSuffix_of_persistent
  refine Edition.all_pairwise_le.imp ?_
  intro older newer noOlder accepted
  rw [Option.isNone_iff_eq_none] at accepted ⊢
  cases failed : check code newer goal with
  | none => rfl
  | some failure =>
      obtain ⟨earlier, refused, _⟩ := failureOf_older (Script.read goal code) noOlder failed
      rw [check, refused] at accepted
      cases accepted

theorem check_latest_eq_none_iff (code : List Char) (goal : Goal) :
    check code .latest goal = none ↔ ∃ tree, Script.read goal code = .ok tree := by
  rw [check]
  cases read : Script.read goal code with
  | error diagnostic => simp [failureOf_error]
  | ok tree => simp [failureOf_latest]

/-- The law of the ladder, for each text and reading goal and any two editions in order: a
grammar error is the same failure on all editions; a failure on the newer edition comes with
one on the older, no later in the text; a failure on the older one that names an edition
names one above it, and stays the same failure below the named edition.  The accepting
editions are the upper part of the ladder, on whose top every program is accepted. -/
theorem check_ladder (code : List Char) (goal : Goal) (target newer : Edition)
    (noOlder : target ≤ newer) :
    (∀ diagnostic, Script.read goal code = .error diagnostic →
      ∀ edition, check code edition goal =
        some (.atOffset code diagnostic.offset diagnostic.error.message)) ∧
    (∀ failure, check code newer goal = some failure →
      ∃ earlier, check code target goal = some earlier ∧
        earlier.byteOffset ≤ failure.byteOffset) ∧
    (∀ failure (feature : String) (needed : Edition), check code target goal = some failure →
      failure.message = s!"Unexpected token: {feature} requires {needed.display}" →
        target < needed ∧
          ∀ between, target ≤ between → between < needed →
            check code between goal = some failure) ∧
    (Edition.all.filter fun edition => (check code edition goal).isNone) <:+ Edition.all ∧
    (check code .latest goal = none ↔ ∃ tree, Script.read goal code = .ok tree) := by
  refine ⟨?_, ?_, ?_, accepting_isSuffix code goal, check_latest_eq_none_iff code goal⟩
  · intro diagnostic refused edition
    rw [check, refused, failureOf_error]
  · intro failure failed
    exact failureOf_older (Script.read goal code) noOlder failed
  · intro failure feature needed failed named
    exact failureOf_until_needed (Script.read goal code) failed named

/-- At one place a loop asks for `for await` before it asks for `for...of`: its failure is
about the former up to the edition that has it. -/
theorem check_ladder_forAwait :
    Edition.es5 ≤ .es2017 ∧
      ∃ failure, check "for await (a of b);".toList .es5 .module = some failure ∧
        failure.message = "Unexpected token: `for await` loop requires es2018" ∧
        check "for await (a of b);".toList .es2017 .module = some failure :=
  have failed : check "for await (a of b);".toList .es5 .module =
      some ⟨"Unexpected token: `for await` loop requires es2018", 0, ⟨1, 0⟩⟩ := by
    decide +kernel
  ⟨by decide, _, failed, rfl,
    ((check_ladder "for await (a of b);".toList .module .es5 .es2017 (by decide)).2.2.1 _
      "`for await` loop" .es2018 failed rfl).2 .es2017 (by decide) (by decide)⟩

end Gate

end EditionGuard
