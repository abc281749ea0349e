import EditionGuard.Proofs.Except
import EditionGuard.Proofs.Gate.TopLevelAwait
import EditionGuard.Word

/-!
# The number of functions around a node

A walk counts the functions that it goes into and comes out of.  Here it does so with a counter of
limited size, which stops it where the counter would go past its limit or below zero, and it logs
each node at which it arrives.

It never stops below zero, and at the limit only if functions are nested deeper than the counter
has room for.  Otherwise it is the same walk, the counter is behind every node what it was before,
and at each node it shows how many functions, fields and static blocks stand around the node, no
matter what stands before it.  So an `await` expression asks for ES2022 if and only if there are
none.
-/

namespace EditionGuard.Gate

open EditionGuard.Script

/-! ## Walks with a limited counter -/

/-- Why a walk cannot go on counting. -/
inductive CounterFault where
  | overflow
  | underflow
deriving DecidableEq, Repr, Inhabited

/-- A node at which a walk arrives, the counter on arrival, and what the node asks for. -/
structure Arrival extends Occurrence where
  depth : Nat
  asked : List Requirement
deriving Repr, Inhabited

def Walk.enter? (limit : Nat) (walk : Walk) (construct : Construct) : Except CounterFault Walk :=
  if isFunctionScope construct then
    if walk.depth < limit then .ok { walk with depth := walk.depth + 1 } else .error .overflow
  else .ok walk

def Walk.leave? (walk : Walk) (construct : Construct) : Except CounterFault Walk :=
  if isFunctionScope construct then
    if walk.depth = 0 then .error .underflow else .ok { walk with depth := walk.depth - 1 }
  else .ok walk

mutual

/-- Walks over a node and all its parts, and logs the nodes in the order of arrival. -/
def visitLogged (code : List Char) (target : Edition) (limit : Nat) (around : List Construct) :
    Node → Walk → Except CounterFault (Walk × List Arrival)
  | .mk construct span parts, walk => do
    let asked := ownRequirements code walk.depth (.mk construct span parts)
    let inside ← (asked.foldl (Walk.require target) walk).enter? limit construct
    let (last, log) ← visitLoggedAll code target limit (construct :: around) parts inside
    let behind ← last.leave? construct
    return (behind, ⟨⟨around, .mk construct span parts⟩, walk.depth, asked⟩ :: log)

/-- Walks over some nodes in order, and logs all nodes in the order of arrival. -/
def visitLoggedAll (code : List Char) (target : Edition) (limit : Nat)
    (around : List Construct) : List Node → Walk → Except CounterFault (Walk × List Arrival)
  | [], walk => .ok (walk, [])
  | node :: rest, walk => do
    let (next, log) ← visitLogged code target limit around node walk
    let (behind, more) ← visitLoggedAll code target limit around rest next
    return (behind, log ++ more)

end

mutual

/-- How deep functions are nested in a tree. -/
def nesting : Node → Nat
  | .mk construct _ parts => innerDepth construct (nestingOfAll parts)

def nestingOfAll : List Node → Nat
  | [] => 0
  | node :: rest => max (nesting node) (nestingOfAll rest)

end

/-- The arrival at a node, where the counter stood at `start` before the whole tree. -/
def Occurrence.arrival (code : List Char) (start : Nat) (occurrence : Occurrence) : Arrival where
  toOccurrence := occurrence
  depth := start + occurrence.around.countP isFunctionScope
  asked :=
    ownRequirements code (start + occurrence.around.countP isFunctionScope) occurrence.node

/-! ## Steps -/

theorem innerDepth_add (construct : Construct) (start depth : Nat) :
    innerDepth construct (start + depth) = start + innerDepth construct depth := by
  unfold innerDepth
  split
  · exact Nat.add_assoc start depth 1
  · rfl

theorem innerDepth_le_iff (construct : Construct) (deep depth limit : Nat) :
    innerDepth construct deep ≤ limit - depth ↔
      innerDepth construct 0 ≤ limit - depth ∧ deep ≤ limit - innerDepth construct depth := by
  unfold innerDepth
  split <;> omega

namespace Walk

variable {walk : Walk} {limit : Nat} {construct : Construct}

theorem enter?_of_le (room : innerDepth construct 0 ≤ limit - walk.depth) :
    walk.enter? limit construct = .ok (walk.enter construct) := by
  unfold enter? enter
  unfold innerDepth at room
  by_cases scope : isFunctionScope construct
  · rw [if_pos scope] at room
    have below : walk.depth < limit := by omega
    rw [if_pos scope, if_pos scope, if_pos below]
  · rw [if_neg scope, if_neg scope]

theorem enter?_of_not_le (noRoom : ¬ innerDepth construct 0 ≤ limit - walk.depth) :
    walk.enter? limit construct = .error .overflow := by
  unfold enter?
  unfold innerDepth at noRoom
  by_cases scope : isFunctionScope construct
  · rw [if_pos scope] at noRoom
    have notBelow : ¬ walk.depth < limit := by omega
    rw [if_pos scope, if_neg notBelow]
  · rw [if_neg scope] at noRoom
    exact absurd (Nat.zero_le _) noRoom

theorem leave?_of_depth {depth : Nat} (isInside : walk.depth = innerDepth construct depth) :
    walk.leave? construct = .ok (walk.leave construct) := by
  unfold leave? leave
  unfold innerDepth at isInside
  by_cases scope : isFunctionScope construct
  · rw [if_pos scope] at isInside
    have notZero : walk.depth ≠ 0 := by omega
    rw [if_pos scope, if_pos scope, if_neg notZero]
  · rw [if_neg scope, if_neg scope]

end Walk

theorem visit_depth (code : List Char) (target : Edition) (tree : Node) (walk : Walk) :
    (visit code target tree walk).depth = walk.depth := by
  rw [visit_eq_foldl, Walk.foldl_require_depth]

theorem visitAll_depth (code : List Char) (target : Edition) (trees : List Node) (walk : Walk) :
    (visitAll code target trees walk).depth = walk.depth := by
  rw [visitAll_eq_foldl, Walk.foldl_require_depth]

/-! ## Runs -/

mutual

/-- A walk with a limited counter is the walk without a limit, unless there is no room. -/
theorem visitLogged_eq (code : List Char) (target : Edition) (limit start : Nat) :
    ∀ (tree : Node) (around : List Construct) (walk : Walk),
      walk.depth = start + around.countP isFunctionScope →
        visitLogged code target limit around tree walk =
          if nesting tree ≤ limit - walk.depth then
            .ok (visit code target tree walk,
              (occurrences around tree).map (Occurrence.arrival code start))
          else .error .overflow
  | .mk construct span parts, around, walk, counts => by
      rw [visitLogged, visit, occurrences, nesting]
      generalize isAsked : (ownRequirements code walk.depth (.mk construct span parts)).foldl
        (Walk.require target) walk = asked
      -- Asking changes only what the walk has noted, so it goes in with the counter of its arrival.
      have askedDepth : asked.depth = walk.depth := by
        rw [← isAsked, Walk.foldl_require_depth]
      have insideCounts : (asked.enter construct).depth =
          start + (construct :: around).countP isFunctionScope := by
        rw [Walk.enter_depth, askedDepth, counts, innerDepth_add, innerDepth_countP]
      have allFit : innerDepth construct (nestingOfAll parts) ≤ limit - walk.depth ↔
          innerDepth construct 0 ≤ limit - asked.depth ∧
            nestingOfAll parts ≤ limit - (asked.enter construct).depth := by
        rw [innerDepth_le_iff, Walk.enter_depth, askedDepth]
      by_cases room : innerDepth construct 0 ≤ limit - asked.depth
      · rw [Walk.enter?_of_le room, ok_bind,
          visitLoggedAll_eq code target limit start parts (construct :: around) _ insideCounts]
        by_cases fits : nestingOfAll parts ≤ limit - (asked.enter construct).depth
        -- The parts leave the counter as it was inside, so it has the step to take back.
        · have isInside :
              (visitAll code target parts (asked.enter construct)).depth =
                innerDepth construct walk.depth := by
            rw [visitAll_depth, Walk.enter_depth, askedDepth]
          rw [if_pos fits, ok_bind]
          dsimp only
          rw [Walk.leave?_of_depth isInside, ok_bind, if_pos (allFit.mpr ⟨room, fits⟩),
            List.map_cons, Occurrence.arrival, ← counts]
          rfl
        · rw [if_neg fits, error_bind, if_neg fun all => fits (allFit.mp all).2]
      · rw [Walk.enter?_of_not_le room, error_bind, if_neg fun all => room (allFit.mp all).1]

theorem visitLoggedAll_eq (code : List Char) (target : Edition) (limit start : Nat) :
    ∀ (trees : List Node) (around : List Construct) (walk : Walk),
      walk.depth = start + around.countP isFunctionScope →
        visitLoggedAll code target limit around trees walk =
          if nestingOfAll trees ≤ limit - walk.depth then
            .ok (visitAll code target trees walk,
              (occurrencesOfAll around trees).map (Occurrence.arrival code start))
          else .error .overflow
  | [], around, walk, _ => by
      rw [visitLoggedAll, visitAll, occurrencesOfAll, nestingOfAll, if_pos (Nat.zero_le _)]
      rfl
  | tree :: rest, around, walk, counts => by
      have restCounts : (visit code target tree walk).depth =
          start + around.countP isFunctionScope := by
        rw [visit_depth, counts]
      have bothFit : nestingOfAll (tree :: rest) ≤ limit - walk.depth ↔
          nesting tree ≤ limit - walk.depth ∧ nestingOfAll rest ≤ limit - walk.depth := by
        rw [nestingOfAll, Nat.max_le]
      rw [visitLoggedAll, visitLogged_eq code target limit start tree around walk counts]
      by_cases treeFits : nesting tree ≤ limit - walk.depth
      · rw [if_pos treeFits, ok_bind]
        dsimp only
        rw [visitLoggedAll_eq code target limit start rest around _ restCounts, visit_depth]
        by_cases restFits : nestingOfAll rest ≤ limit - walk.depth
        · rw [if_pos restFits, ok_bind, if_pos (bothFit.mpr ⟨treeFits, restFits⟩), visitAll,
            occurrencesOfAll, List.map_append]
          rfl
        · rw [if_neg restFits, error_bind, if_neg fun fits => restFits (bothFit.mp fits).2]
      · rw [if_neg treeFits, error_bind, if_neg fun fits => treeFits (bothFit.mp fits).1]

end

/-! ## What surrounds an `await` expression -/

/-- Whether an `await` in a construct is no longer at the top: in functions of either kind, in
fields other than accessors, and in static blocks. -/
def enclosesAwait (construct : Construct) : Bool :=
  isFunction construct || construct == .field || construct == .staticBlock

theorem isFunctionScope_eq_enclosesAwait : isFunctionScope = enclosesAwait := by
  funext construct
  cases construct <;> rfl

theorem asked_arrival_await (code : List Char) (start : Nat) (around : List Construct)
    (span : Span) (parts : List Node) :
    (Occurrence.arrival code start ⟨around, .mk .awaitExpression span parts⟩).asked =
      [⟨span.start, if start + around.countP isFunctionScope = 0 then .topLevelAwait
        else .awaitOperator⟩] :=
  rfl

theorem asked_arrival_eq_iff (code : List Char) (start : Nat) (around : List Construct)
    (span : Span) (parts : List Node) :
    let arrival := Occurrence.arrival code start ⟨around, .mk .awaitExpression span parts⟩
    let atTop := start = 0 ∧ ∀ construct ∈ around, enclosesAwait construct = false
    (arrival.asked = [⟨span.start, .topLevelAwait⟩] ↔ atTop) ∧
      (arrival.asked = [⟨span.start, .awaitOperator⟩] ↔ ¬ atTop) ∧
      (arrival.asked.map (·.edition) = [.es2022] ↔ atTop) := by
  intro arrival atTop
  have atTop_iff : start + around.countP isFunctionScope = 0 ↔ atTop := by
    rw [Nat.add_eq_zero_iff, List.countP_eq_zero, isFunctionScope_eq_enclosesAwait]
    simp only [atTop, Bool.not_eq_true]
  have newer : (Requirement.mk span.start .topLevelAwait).edition = .es2022 := rfl
  have older : (Requirement.mk span.start .awaitOperator).edition = .es2017 := rfl
  rw [asked_arrival_await]
  by_cases isTop : start + around.countP isFunctionScope = 0
  · rw [if_pos isTop]
    simp [atTop_iff.mp isTop, newer]
  · rw [if_neg isTop]
    simp [mt atTop_iff.mpr isTop, older]

/-- Behind a tree the counter is what it was before.  A counter with a limit never goes below zero,
and past its limit only if functions are nested deeper in the tree than it has room for.  If they
are not, the walk arrives once at each node of the tree, and the counter has then gone up by the
number of functions, fields and static blocks around the node.  From zero an `await` expression asks
for ES2022 if and only if nothing of these stands around it, and otherwise for ES2017. -/
theorem visit_counts_functions (code : List Char) (target : Edition) (limit : Nat) (tree : Node)
    (walk : Walk) :
    (visit code target tree walk).depth = walk.depth ∧
    visitLogged code target limit [] tree walk ≠ .error .underflow ∧
    (visitLogged code target limit [] tree walk = .error .overflow ↔
      limit - walk.depth < nesting tree) ∧
    ∀ behind log, visitLogged code target limit [] tree walk = .ok (behind, log) →
      behind = visit code target tree walk ∧
      log.map (·.toOccurrence) = occurrences [] tree ∧
      ∀ arrival ∈ log,
        arrival.depth = walk.depth + arrival.around.countP enclosesAwait ∧
        ∀ span parts, arrival.node = .mk .awaitExpression span parts →
          let atTop := walk.depth = 0 ∧ ∀ construct ∈ arrival.around, enclosesAwait construct = false
          (arrival.asked = [⟨span.start, .topLevelAwait⟩] ↔ atTop) ∧
            (arrival.asked = [⟨span.start, .awaitOperator⟩] ↔ ¬ atTop) ∧
            (arrival.asked.map (·.edition) = [.es2022] ↔ atTop) := by
  have logged := visitLogged_eq code target limit walk.depth tree [] walk rfl
  refine ⟨visit_depth code target tree walk, ?_, ?_, ?_⟩
  · rw [logged]
    split <;> nofun
  · rw [logged]
    by_cases fits : nesting tree ≤ limit - walk.depth
    · rw [if_pos fits]
      exact iff_of_false nofun (Nat.not_lt.mpr fits)
    · rw [if_neg fits]
      exact iff_of_true rfl (Nat.not_le.mp fits)
  · intro behind log isLogged
    rw [logged] at isLogged
    split at isLogged
    · obtain ⟨rfl, rfl⟩ := Prod.mk.inj (Except.ok.inj isLogged)
      refine ⟨rfl, ?_, ?_⟩
      · rw [List.map_map]
        exact List.map_id _
      · intro arrival member
        obtain ⟨⟨around, node⟩, _, rfl⟩ := List.mem_map.mp member
        refine ⟨by rw [← isFunctionScope_eq_enclosesAwait]; rfl, ?_⟩
        rintro span parts isAwait
        obtain rfl : node = .mk .awaitExpression span parts := isAwait
        exact asked_arrival_eq_iff code walk.depth around span parts
    · cases isLogged

/-- A module that awaits in a function, and again at the top behind it and behind a class. -/
def awaitsTwice : List Char :=
  "async function f() \x7bawait 0\x7d class A \x7bx = 1\x7d await f()".toList

/-- What stands before an `await` expression has no part in what it asks for. -/
theorem visit_counts_functions_awaitsTwice :
    ∃ tree log, Script.read .module awaitsTwice = .ok tree ∧
      visitLogged awaitsTwice .es2017 (Word.count32 - 1) [] tree ⟨0, none⟩ =
        .ok (visit awaitsTwice .es2017 tree ⟨0, none⟩, log) ∧
      ∃ arrival ∈ log, ∃ span parts, arrival.node = .mk .awaitExpression span parts ∧
        arrival.depth = 0 ∧ arrival.asked = [⟨span.start, .topLevelAwait⟩] := by
  obtain ⟨tree, read, passes⟩ := exists_read_of_any
    (fun tree => decide (nesting tree ≤ Word.count32 - 1) &&
      (occurrences [] tree).any fun occurrence =>
        occurrence.node.construct == .awaitExpression &&
          occurrence.around.all fun construct => !enclosesAwait construct)
    (by decide +kernel : (Script.read .module awaitsTwice).toOption.any _ = true)
  obtain ⟨isShallow, holdsAwait⟩ := Bool.and_eq_true_iff.mp passes
  obtain ⟨around, ⟨construct, span, parts⟩, occurs, isFound⟩ := any_occurrences_iff.mp holdsAwait
  obtain ⟨isAwait, outside⟩ := Bool.and_eq_true_iff.mp isFound
  obtain rfl : construct = .awaitExpression := beq_iff_eq.mp isAwait
  obtain ⟨_, noUnderflow, overflow_iff, walked⟩ :=
    visit_counts_functions awaitsTwice .es2017 (Word.count32 - 1) tree ⟨0, none⟩
  have noOverflow := mt overflow_iff.mp (Nat.not_lt.mpr (of_decide_eq_true isShallow))
  match logged : visitLogged awaitsTwice .es2017 (Word.count32 - 1) [] tree ⟨0, none⟩ with
  | .error .underflow => exact absurd logged noUnderflow
  | .error .overflow => exact absurd logged noOverflow
  | .ok (behind, log) =>
      obtain ⟨rfl, listed, counted⟩ := walked behind log logged
      have isListed : ⟨around, .mk .awaitExpression span parts⟩ ∈ log.map (·.toOccurrence) := by
        rw [listed]
        exact mem_occurrences_iff.mpr occurs
      obtain ⟨arrival, member, isArrival⟩ := List.mem_map.mp isListed
      obtain ⟨counts, asks⟩ := counted arrival member
      have isAround : arrival.around = around := congrArg Occurrence.around isArrival
      have isNode : arrival.node = .mk .awaitExpression span parts :=
        congrArg Occurrence.node isArrival
      have noneAround : ∀ construct ∈ arrival.around, enclosesAwait construct = false := by
        intro construct inAround
        rw [isAround] at inAround
        simpa using List.all_eq_true.mp outside construct inAround
      have noCount : arrival.around.countP enclosesAwait = 0 := by
        simpa [List.countP_eq_zero] using noneAround
      rw [noCount] at counts
      exact ⟨tree, log, read, logged, arrival, member, span, parts, isNode, counts,
        (asks span parts isNode).1.mpr ⟨rfl, noneAround⟩⟩

end EditionGuard.Gate
