import EditionGuard.Gate.Violation
import EditionGuard.Proofs.Edition

/-!
# The earliest requirement that is not met

A walk notes one requirement: among all that were asked for and that the target does not
meet, one with the smallest offset, and of several at this offset the one that was asked for
first.  One step of the walk keeps this, so a walk over any list ends with it.

Walking over a tree is walking over the list of its requirements.
-/

namespace EditionGuard.Gate

open EditionGuard.Script

variable {target : Edition} {asked : List Requirement} {violation : Requirement}

/-- Of the requirements in a list that a target does not meet, none has a smaller offset
than `violation`, and none with the same offset stands before it. -/
def IsEarliestUnmet (target : Edition) (asked : List Requirement)
    (violation : Requirement) : Prop :=
  target < violation.edition ∧
    ∃ earlier later, asked = earlier ++ violation :: later ∧
      (∀ requirement ∈ earlier, target < requirement.edition →
        violation.offset < requirement.offset) ∧
      ∀ requirement ∈ later, target < requirement.edition →
        violation.offset ≤ requirement.offset

namespace IsEarliestUnmet

theorem mem (earliest : IsEarliestUnmet target asked violation) : violation ∈ asked := by
  obtain ⟨_, earlier, later, partition, _, _⟩ := earliest
  rw [partition]
  exact List.mem_append_right earlier List.mem_cons_self

theorem offset_le (earliest : IsEarliestUnmet target asked violation)
    {requirement : Requirement} (member : requirement ∈ asked)
    (unmet : target < requirement.edition) : violation.offset ≤ requirement.offset := by
  obtain ⟨_, earlier, later, partition, before, after⟩ := earliest
  rw [partition] at member
  rcases List.mem_append.mp member with inEarlier | inRest
  · exact Nat.le_of_lt (before requirement inEarlier unmet)
  · rcases List.mem_cons.mp inRest with rfl | inLater
    · exact Nat.le_refl _
    · exact after requirement inLater unmet

/-- Two requirements that stand apart in a list cannot both be the earliest: the one that
stands first would have the greater offset. -/
private theorem not_before {other : Requirement} {initial middle rest : List Requirement}
    (first : IsEarliestUnmet target (initial ++ violation :: (middle ++ other :: rest))
      violation)
    (unmet : target < other.edition)
    (before : ∀ requirement ∈ initial ++ violation :: middle, target < requirement.edition →
      other.offset < requirement.offset) : False := by
  have above : other.offset < violation.offset := before violation (by simp) first.1
  have below : violation.offset ≤ other.offset := first.offset_le (by simp) unmet
  exact Nat.not_lt.mpr below above

/-- A list has at most one earliest requirement that is not met. -/
theorem unique {other : Requirement} (first : IsEarliestUnmet target asked violation)
    (second : IsEarliestUnmet target asked other) : violation = other := by
  obtain ⟨violationUnmet, earlier, later, partition, before, _⟩ := id first
  obtain ⟨otherUnmet, earlier', later', partition', before', _⟩ := id second
  rcases List.append_eq_append_iff.mp (partition.symm.trans partition') with
    ⟨middle, prefixShape, restShape⟩ | ⟨middle, prefixShape, restShape⟩
  · cases middle with
    | nil => exact (List.cons.inj restShape).1
    | cons head tail =>
        obtain ⟨rfl, rfl⟩ := List.cons.inj restShape
        rw [partition] at first
        rw [prefixShape] at before'
        exact (not_before first otherUnmet before').elim
  · cases middle with
    | nil => exact (List.cons.inj restShape).1.symm
    | cons head tail =>
        obtain ⟨rfl, rfl⟩ := List.cons.inj restShape
        rw [partition'] at second
        rw [prefixShape] at before
        exact (not_before second violationUnmet before).elim

theorem of_le {newer : Edition} (earliest : IsEarliestUnmet target asked violation)
    (noOlder : target ≤ newer) (unmet : newer < violation.edition) :
    IsEarliestUnmet newer asked violation := by
  obtain ⟨_, earlier, later, partition, before, after⟩ := earliest
  refine ⟨unmet, earlier, later, partition, ?_, ?_⟩
  · intro requirement member requirementUnmet
    exact before requirement member (Edition.lt_of_le_of_lt noOlder requirementUnmet)
  · intro requirement member requirementUnmet
    exact after requirement member (Edition.lt_of_le_of_lt noOlder requirementUnmet)

end IsEarliestUnmet

/-! ## What a walk has noted -/

/-- A note is right for a list of requirements: there is none if all are met, and otherwise
it is the earliest that is not. -/
def IsNoteOn (target : Edition) (asked : List Requirement) : Option Requirement → Prop
  | none => ∀ requirement ∈ asked, requirement.edition ≤ target
  | some violation => IsEarliestUnmet target asked violation

private theorem isNoteOn_append_met {note : Option Requirement} {requirement : Requirement}
    (right : IsNoteOn target asked note) (met : requirement.edition ≤ target) :
    IsNoteOn target (asked ++ [requirement]) note := by
  have notUnmet : ¬ target < requirement.edition := fun unmet =>
    Edition.not_le_iff_lt.mpr unmet met
  cases note with
  | none =>
      intro candidate member
      rcases List.mem_append.mp member with inAsked | isLast
      · exact right candidate inAsked
      · rw [List.mem_singleton.mp isLast]
        exact met
  | some violation =>
      obtain ⟨violationUnmet, earlier, later, partition, before, after⟩ := right
      refine ⟨violationUnmet, earlier, later ++ [requirement], by simp [partition], before, ?_⟩
      intro candidate member unmet
      rcases List.mem_append.mp member with inLater | isLast
      · exact after candidate inLater unmet
      · rw [List.mem_singleton.mp isLast] at unmet
        exact (notUnmet unmet).elim

private theorem isEarliestUnmet_append_self {requirement : Requirement}
    (unmet : target < requirement.edition)
    (before : ∀ candidate ∈ asked, target < candidate.edition →
      requirement.offset < candidate.offset) :
    IsEarliestUnmet target (asked ++ [requirement]) requirement :=
  ⟨unmet, asked, [], rfl, before, by simp⟩

private theorem isEarliestUnmet_append_later {requirement : Requirement}
    (earliest : IsEarliestUnmet target asked violation)
    (notBefore : violation.offset ≤ requirement.offset) :
    IsEarliestUnmet target (asked ++ [requirement]) violation := by
  obtain ⟨violationUnmet, earlier, later, partition, before, after⟩ := earliest
  refine ⟨violationUnmet, earlier, later ++ [requirement], by simp [partition], before, ?_⟩
  intro candidate member unmet
  rcases List.mem_append.mp member with inLater | isLast
  · exact after candidate inLater unmet
  · rw [List.mem_singleton.mp isLast]
    exact notBefore

namespace Walk

variable {walk : Walk}

@[simp]
theorem require_depth (target : Edition) (walk : Walk) (requirement : Requirement) :
    (walk.require target requirement).depth = walk.depth := by
  unfold require
  split
  · rfl
  · split
    · split <;> rfl
    · rfl

theorem isNoteOn_require (requirement : Requirement)
    (right : IsNoteOn target asked walk.first) :
    IsNoteOn target (asked ++ [requirement]) (walk.require target requirement).first := by
  unfold require
  by_cases met : requirement.edition ≤ target
  · rw [if_pos met]
    exact isNoteOn_append_met right met
  · have unmet : target < requirement.edition := Edition.not_le_iff_lt.mp met
    rw [if_neg met]
    cases noted : walk.first with
    | none =>
        rw [noted] at right
        refine isEarliestUnmet_append_self unmet ?_
        intro candidate member candidateUnmet
        exact (Edition.not_le_iff_lt.mpr candidateUnmet (right candidate member)).elim
    | some violation =>
        rw [noted] at right
        have earliest : IsEarliestUnmet target asked violation := right
        by_cases notBefore : violation.offset ≤ requirement.offset
        · simp only [if_pos notBefore, noted]
          exact isEarliestUnmet_append_later earliest notBefore
        · simp only [if_neg notBefore]
          refine isEarliestUnmet_append_self unmet ?_
          intro candidate member candidateUnmet
          exact Nat.lt_of_lt_of_le (Nat.lt_of_not_le notBefore)
            (earliest.offset_le member candidateUnmet)

theorem isNoteOn_foldl_require (more : List Requirement)
    (right : IsNoteOn target asked walk.first) :
    IsNoteOn target (asked ++ more) (more.foldl (require target) walk).first := by
  induction more generalizing asked walk with
  | nil => simpa using right
  | cons requirement rest inductionHypothesis =>
      have next := inductionHypothesis (isNoteOn_require requirement right)
      simpa using next

@[simp]
theorem foldl_require_depth (target : Edition) (more : List Requirement) (walk : Walk) :
    (more.foldl (require target) walk).depth = walk.depth := by
  induction more generalizing walk with
  | nil => rfl
  | cons requirement rest inductionHypothesis =>
      rw [List.foldl_cons, inductionHypothesis, require_depth]

@[simp]
theorem enter_depth (walk : Walk) (construct : Construct) :
    (walk.enter construct).depth = innerDepth construct walk.depth := by
  unfold enter innerDepth
  split <;> rfl

theorem require_enter (target : Edition) (walk : Walk) (construct : Construct)
    (requirement : Requirement) :
    (walk.enter construct).require target requirement =
      (walk.require target requirement).enter construct := by
  by_cases scope : isFunctionScope construct
  · simp only [require, enter, if_pos scope]
    split
    · rfl
    · split
      · split <;> rfl
      · rfl
  · simp only [enter, if_neg scope]

theorem foldl_require_enter (target : Edition) (more : List Requirement) (walk : Walk)
    (construct : Construct) :
    more.foldl (require target) (walk.enter construct) =
      (more.foldl (require target) walk).enter construct := by
  induction more generalizing walk with
  | nil => rfl
  | cons requirement rest inductionHypothesis =>
      rw [List.foldl_cons, List.foldl_cons, require_enter, inductionHypothesis]

@[simp]
theorem leave_enter (walk : Walk) (construct : Construct) :
    (walk.enter construct).leave construct = walk := by
  unfold enter leave
  split <;> rfl

end Walk

/-! ## Walking over trees -/

mutual

/-- A walk over a tree asks for the requirements of the tree in order. -/
theorem visit_eq_foldl (code : List Char) (target : Edition) :
    ∀ (tree : Node) (walk : Walk),
      visit code target tree walk =
        (requirements code walk.depth tree).foldl (Walk.require target) walk
  | .mk construct span parts, walk => by
      rw [visit, requirements, List.foldl_append, visitAll_eq_foldl code target parts,
        Walk.enter_depth, Walk.foldl_require_depth, Walk.foldl_require_enter,
        Walk.leave_enter]

theorem visitAll_eq_foldl (code : List Char) (target : Edition) :
    ∀ (trees : List Node) (walk : Walk),
      visitAll code target trees walk =
        (requirementsOfAll code walk.depth trees).foldl (Walk.require target) walk
  | [], walk => by
      rw [visitAll, requirementsOfAll, List.foldl_nil]
  | tree :: rest, walk => by
      rw [visitAll, requirementsOfAll, List.foldl_append,
        visitAll_eq_foldl code target rest, visit_eq_foldl code target tree,
        Walk.foldl_require_depth]

end

theorem isNoteOn_firstViolation (tree : Node) (code : List Char)
    (belowLatest : target ≠ .latest) :
    IsNoteOn target (requirements code 0 tree) (firstViolation tree code target) := by
  have start : IsNoteOn target [] (Walk.mk 0 none).first := by
    simp [IsNoteOn]
  rw [firstViolation, if_neg belowLatest, visit_eq_foldl]
  exact Walk.isNoteOn_foldl_require (requirements code 0 tree) start

theorem firstViolation_eq_none_iff (tree : Node) (code : List Char)
    (belowLatest : target ≠ .latest) :
    firstViolation tree code target = none ↔
      ∀ requirement ∈ requirements code 0 tree, requirement.edition ≤ target := by
  have right := isNoteOn_firstViolation tree code belowLatest
  constructor
  · intro noViolation
    rwa [noViolation] at right
  · intro allMet
    cases found : firstViolation tree code target with
    | none => rfl
    | some violation =>
        rw [found] at right
        have earliest : IsEarliestUnmet target (requirements code 0 tree) violation := right
        exact (Edition.not_le_iff_lt.mpr earliest.1 (allMet violation earliest.mem)).elim

theorem firstViolation_eq_some_iff (tree : Node) (code : List Char)
    (belowLatest : target ≠ .latest) :
    firstViolation tree code target = some violation ↔
      IsEarliestUnmet target (requirements code 0 tree) violation := by
  have right := isNoteOn_firstViolation tree code belowLatest
  constructor
  · intro found
    rwa [found] at right
  · intro earliest
    cases found : firstViolation tree code target with
    | none =>
        rw [found] at right
        exact (Edition.not_le_iff_lt.mpr earliest.1 (right violation earliest.mem)).elim
    | some other =>
        rw [found] at right
        exact congrArg some (IsEarliestUnmet.unique right earliest)

end EditionGuard.Gate
