import EditionGuard.Proofs.Gate.Accepted

/-!
# Awaiting at the top

Below ES2022 an accepted text waits inside of functions only: an `await` expression that no
function encloses asks for ES2022, and what else may enclose one, a field or a static block,
asks for ES2022 itself.

A loop `for await` asks for ES2018 wherever it stands.  So from ES2018 on an accepted text may
wait at the top after all, by such a loop.
-/

namespace EditionGuard.Gate

open EditionGuard.Script

variable {code : List Char} {target : Edition} {goal : Goal} {tree node : Node}
  {around : List Construct}

/-- Whether a construct is a function, with an arrow or without. -/
def isFunction : Construct → Bool
  | .functionLike _ _ | .arrowFunction _ => true
  | _ => false

/-- Functions, fields and static blocks are all that counts as the inside of a function. -/
theorem isFunctionScope_cases {construct : Construct} (scope : isFunctionScope construct) :
    isFunction construct ∨ construct = .field ∨ construct = .staticBlock := by
  unfold isFunctionScope at scope
  split at scope
  · exact .inl rfl
  · exact .inl rfl
  · exact .inr (.inl rfl)
  · exact .inr (.inr rfl)
  · cases scope

theorem Occurs.exists_of_mem_around (occurs : Occurs tree around node) {outer : Construct}
    (member : outer ∈ around) :
    ∃ outside span parts, Occurs tree outside (.mk outer span parts) := by
  induction occurs with
  | root => cases member
  | part above _ inductionHypothesis =>
      rcases List.mem_cons.mp member with rfl | further
      · exact ⟨_, _, _, above⟩
      · exact inductionHypothesis further

theorem AsksWithin.not_mem_around (within : AsksWithin target code tree)
    (occurs : Occurs tree around node) {outer : Construct} {feature : Feature}
    (asks : ∀ outside span parts,
      Occurrence.Asks code ⟨outside, .mk outer span parts⟩ feature)
    (unmet : target < feature.introducedIn) : outer ∉ around := by
  intro member
  obtain ⟨outside, span, parts, standsOutside⟩ := occurs.exists_of_mem_around member
  exact Edition.not_le_iff_lt.mpr unmet
    (within.introducedIn_le standsOutside (asks outside span parts))

theorem requirements_awaitExpression (code : List Char) (around : List Construct)
    (span : Span) (parts : List Node) :
    Occurrence.requirements code ⟨around, .mk .awaitExpression span parts⟩ =
      [⟨span.start,
        if around.countP isFunctionScope = 0 then .topLevelAwait else .awaitOperator⟩] :=
  rfl

/-- A loop `for await` asks for the same at every place. -/
theorem requirements_forAwait (code : List Char) (around : List Construct) (span : Span)
    (parts : List Node) :
    Occurrence.requirements code ⟨around, .mk (.forOfLoop true) span parts⟩ =
      [⟨span.start, .forAwait⟩, ⟨span.start, .forOf⟩] :=
  rfl

theorem AsksWithin.exists_isFunction (within : AsksWithin target code tree)
    (below : target < .es2022) {span : Span} {parts : List Node}
    (occurs : Occurs tree around (.mk .awaitExpression span parts)) :
    ∃ construct ∈ around, isFunction construct := by
  have enclosed : around.countP isFunctionScope ≠ 0 := by
    intro outside
    have asked := within around _ occurs ⟨span.start, .topLevelAwait⟩
      (by rw [requirements_awaitExpression, if_pos outside]; exact List.mem_singleton_self _)
    exact Edition.not_le_iff_lt.mpr below asked
  obtain ⟨construct, member, scope⟩ := List.countP_pos_iff.mp (Nat.pos_of_ne_zero enclosed)
  rcases isFunctionScope_cases scope with function | rfl | rfl
  · exact ⟨construct, member, function⟩
  · exact absurd member
      (within.not_mem_around occurs (fun _ _ _ => List.mem_singleton_self _) below)
  · exact absurd member
      (within.not_mem_around occurs (fun _ _ _ => List.mem_singleton_self _) below)

/-- In a text that is accepted below ES2022 no `await` expression stands outside of every
function; if there is one, the edition is ES2017 at least.  A loop `for await` makes it ES2018
at least, but is asked for nothing more outside of functions than inside of them. -/
theorem awaits_inside_functions (below : target < .es2022)
    (accepted : check code target goal = none) :
    ∃ tree, Script.read goal code = .ok tree ∧
      (∀ around node, Occurs tree around node → node.construct = .awaitExpression →
        .es2017 ≤ target ∧ ∃ construct ∈ around, isFunction construct) ∧
      ∀ around node, Occurs tree around node → node.construct = .forOfLoop true →
        .es2018 ≤ target ∧
          ∀ requirement ∈ Occurrence.requirements code ⟨around, node⟩,
            requirement.edition ≤ .es2018 := by
  obtain ⟨tree, read, within⟩ := check_eq_none_iff.mp accepted
  refine ⟨tree, read, ?_, ?_⟩
  · rintro around ⟨construct, span, parts⟩ occurs rfl
    have inFunction := within.exists_isFunction below occurs
    have asked := within around _ occurs
    rw [requirements_awaitExpression] at asked
    have met := asked _ (List.mem_singleton_self _)
    refine ⟨?_, inFunction⟩
    split at met
    · exact absurd met (Edition.not_le_iff_lt.mpr below)
    · exact met
  · rintro around ⟨construct, span, parts⟩ occurs rfl
    have asked := within around _ occurs
    rw [requirements_forAwait] at asked ⊢
    refine ⟨asked ⟨span.start, .forAwait⟩ List.mem_cons_self, ?_⟩
    intro requirement member
    rcases List.mem_cons.mp member with rfl | inRest
    · change Feature.forAwait.introducedIn ≤ .es2018
      decide
    · rw [List.mem_singleton.mp inRest]
      change Feature.forOf.introducedIn ≤ .es2018
      decide

/-- Inside of a function a text of ES2018 may wait in both ways. -/
theorem awaits_inside_functions_asyncFunction :
    Edition.es2018 < .es2022 ∧
      check "async function f() \x7b for await (a of b) await a \x7d".toList .es2018 .script =
        none ∧
      ∃ tree, Script.read .script
          "async function f() \x7b for await (a of b) await a \x7d".toList = .ok tree ∧
        ∃ around node, Occurs tree around node ∧ node.construct = .awaitExpression ∧
          ∃ construct ∈ around, isFunction construct := by
  have accepted : check "async function f() \x7b for await (a of b) await a \x7d".toList
      .es2018 .script = none := by
    decide +kernel
  obtain ⟨tree, read, awaits, _⟩ := awaits_inside_functions (by decide) accepted
  obtain ⟨same, readSame, holdsAwait⟩ := exists_read_of_any
    (fun tree => (occurrences [] tree).any fun occurrence =>
      occurrence.node.construct == .awaitExpression)
    (by decide +kernel : (Script.read .script
      "async function f() \x7b for await (a of b) await a \x7d".toList).toOption.any _ = true)
  obtain rfl : tree = same := Except.ok.inj (read.symm.trans readSame)
  obtain ⟨around, node, occurs, isAwait⟩ := any_occurrences_iff.mp holdsAwait
  have awaitNode : node.construct = .awaitExpression := beq_iff_eq.mp isAwait
  exact ⟨by decide, accepted, tree, read, around, node, occurs, awaitNode,
    (awaits around node occurs awaitNode).2⟩

/-- A module may wait at its top below ES2022: no function encloses this loop. -/
theorem accepts_forAwait_outside_functions :
    check "for await (a of b);".toList .es2021 .module = none ∧
      ∃ tree, Script.read .module "for await (a of b);".toList = .ok tree ∧
        ∃ around node, Occurs tree around node ∧ node.construct = .forOfLoop true ∧
          ∀ construct ∈ around, isFunctionScope construct = false := by
  refine ⟨by decide +kernel, ?_⟩
  obtain ⟨tree, read, holdsLoop⟩ := exists_read_of_any
    (fun tree => (occurrences [] tree).any fun occurrence =>
      occurrence.node.construct == .forOfLoop true &&
        occurrence.around.all fun construct => !isFunctionScope construct)
    (by decide +kernel :
      (Script.read .module "for await (a of b);".toList).toOption.any _ = true)
  obtain ⟨around, node, occurs, passes⟩ := any_occurrences_iff.mp holdsLoop
  obtain ⟨isLoop, outside⟩ := Bool.and_eq_true_iff.mp passes
  refine ⟨tree, read, around, node, occurs, beq_iff_eq.mp isLoop, ?_⟩
  intro construct member
  have notScope := List.all_eq_true.mp outside construct member
  simpa using notScope

end EditionGuard.Gate
