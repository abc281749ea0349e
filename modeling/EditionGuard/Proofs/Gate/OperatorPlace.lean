import EditionGuard.Proofs.Gate.ClosingComma
import EditionGuard.Proofs.Text.Slice

/-!
# Where operators are asked for

An operator that some edition brought is asked for at the first place where its characters stand
in the text that is searched.  For all forms but assignments this is the text between the operands,
so the operator is located there.  For an assignment the search begins with the assignment itself:
the operator is located between the operands if and only if its characters do not begin in the
text of the target.
-/

namespace EditionGuard.Gate

open EditionGuard.Script

/-- An operator that some edition brought, with the stretch in which it stands. -/
structure OperatorForm where
  operator : String
  feature : Feature
  gap : Span
deriving DecidableEq, Repr

/-- The operator of a node, and the stretch from the end of its left operand to the start of its
right one; behind the callee of a call, to the end of the call. -/
def operatorForm? : Node → Option OperatorForm
  | .mk construct span parts =>
    match construct, parts with
    | .arrowFunction _, [parameters, body] =>
      some ⟨"=>", .arrowFunction, ⟨parameters.span.stop, body.span.start⟩⟩
    | .binary (.punctuator .power), [left, right] =>
      some ⟨"**", .power, ⟨left.span.stop, right.span.start⟩⟩
    | .logical (.punctuator .coalesce), [left, right] =>
      some ⟨"??", .coalesce, ⟨left.span.stop, right.span.start⟩⟩
    | .assignment operator, [target, value] =>
      (datedAssignment? operator).map fun (text, feature) =>
        ⟨text, feature, ⟨target.span.stop, value.span.start⟩⟩
    | .memberAccess true, [object, property] =>
      some ⟨"?.", .optionalChaining, ⟨object.span.stop, property.span.start⟩⟩
    | .indexAccess true, [object, index] =>
      some ⟨"?.", .optionalChaining, ⟨object.span.stop, index.span.start⟩⟩
    | .privateAccess true, [object, name] =>
      some ⟨"?.", .optionalChaining, ⟨object.span.stop, name.span.start⟩⟩
    | .call true, callee :: _ => some ⟨"?.", .optionalChaining, ⟨callee.span.stop, span.stop⟩⟩
    | _, _ => none

def isAssignment : Construct → Bool
  | .assignment _ => true
  | _ => false

def searchStart (node : Node) (form : OperatorForm) : Nat :=
  if isAssignment node.construct then node.span.start else form.gap.start

/-- What a node asks for because of its operator. -/
def operatorRequests (code : List Char) (occurrence : Occurrence) (form : OperatorForm) :
    List Requirement :=
  (occurrence.requirements code).filter (·.feature == form.feature)

variable {code between target : List Char} {around : List Construct} {node : Node}
  {form : OperatorForm}

theorem filter_commaBehind {feature other : Feature} (different : feature ≠ other)
    (items : List Node) (stop : Nat) :
    (commaBehind code items stop feature).filter (·.feature == other) = [] := by
  unfold commaBehind commaRequirement
  split
  · split
    · simp [different]
    · rfl
  · rfl

/-- Each operator is asked for once. -/
theorem operatorRequests_eq (isForm : operatorForm? node = some form) :
    operatorRequests code ⟨around, node⟩ form =
      [⟨operatorOffset code (searchStart node form) form.gap.stop form.operator,
        form.feature⟩] := by
  obtain ⟨construct, span, parts⟩ := node
  simp only [operatorForm?] at isForm
  split at isForm
  case h_1 isAsync parameters body =>
    obtain rfl := Option.some.inj isForm
    cases isAsync <;> rfl
  case h_4 operator target value =>
    obtain ⟨⟨text, feature⟩, dated, rfl⟩ := Option.map_eq_some_iff.mp isForm
    have asked : Occurrence.requirements code
        ⟨around, .mk (.assignment operator) span [target, value]⟩ =
          [⟨operatorOffset code span.start value.span.start text, feature⟩] := by
      rw [Occurrence.requirements, ownRequirements, dated]
    rw [operatorRequests, asked]
    simp [searchStart, isAssignment, Node.construct, Node.span]
  case h_8 callee arguments =>
    obtain rfl := Option.some.inj isForm
    have asked : Occurrence.requirements code
        ⟨around, .mk (.call true) span (callee :: arguments)⟩ =
          ⟨operatorOffset code callee.span.stop span.stop "?.", .optionalChaining⟩ ::
            commaBehind code arguments span.stop .argumentComma :=
      rfl
    have noComma := @filter_commaBehind code .argumentComma .optionalChaining (by decide)
      arguments span.stop
    rw [operatorRequests, asked, List.filter_cons_of_pos rfl, noComma]
    rfl
  case h_9 => cases isForm
  all_goals
    obtain rfl := Option.some.inj isForm
    rfl

theorem exists_findBytes_eq {text : List Char} {start stop : Nat} {operator : String}
    (isText : Text.slice code start stop = some text)
    (holds : Text.occurs operator.toList text = true) :
    ∃ found, Text.findBytes operator.toList text = some found ∧
      operatorOffset code start stop operator = start + found ∧
      start + found + Text.byteLength operator.toList ≤ stop := by
  obtain ⟨found, isFound⟩ := Option.isSome_iff_exists.mp holds
  obtain ⟨_, _, _, _, ends⟩ := Text.slice_eq_some_iff.mp isText
  obtain ⟨front, back, rfl, rfl, _⟩ := Text.exists_of_findBytes isFound
  refine ⟨Text.byteLength front, isFound, ?_, ?_⟩
  · rw [operatorOffset, isText, Option.bind_some, isFound]
  · rw [Text.byteLength_append, Text.byteLength_append] at ends
    omega

theorem occurs_append_right {wanted left right : List Char}
    (holds : Text.occurs wanted right = true) : Text.occurs wanted (left ++ right) = true := by
  obtain ⟨place, stands⟩ := Text.occurs_iff.mp holds
  refine Text.occurs_iff.mpr ⟨left.length + place, ?_⟩
  rwa [List.drop_append, List.drop_eq_nil_of_le (Nat.le_add_right _ _), List.nil_append,
    Nat.add_sub_cancel_left]

/-- Between its operands an operator is asked for where its characters stand, for all forms but
assignments.  An operator that assigns is asked for within the assignment and before its value,
but behind its target if and only if its characters do not begin in the text of the target. -/
theorem operatorRequests_located (isForm : operatorForm? node = some form)
    (isBetween : Text.slice code form.gap.start form.gap.stop = some between)
    (holds : Text.occurs form.operator.toList between = true) :
    (isAssignment node.construct = false →
      ∃ offset, operatorRequests code ⟨around, node⟩ form = [⟨offset, form.feature⟩] ∧
        form.gap.start ≤ offset ∧
        offset + Text.byteLength form.operator.toList ≤ form.gap.stop) ∧
    (isAssignment node.construct = true →
      ∀ target, Text.slice code node.span.start form.gap.start = some target →
        ∃ offset, operatorRequests code ⟨around, node⟩ form = [⟨offset, form.feature⟩] ∧
          node.span.start ≤ offset ∧
          offset + Text.byteLength form.operator.toList ≤ form.gap.stop ∧
          (form.gap.start ≤ offset ↔ ∀ place < target.length,
            ¬ form.operator.toList <+: (target ++ between).drop place)) := by
  have requested := @operatorRequests_eq code around node form isForm
  constructor
  · intro notAssignment
    obtain ⟨found, _, isOffset, within⟩ := exists_findBytes_eq isBetween holds
    rw [searchStart, if_neg (by simp [notAssignment]), isOffset] at requested
    exact ⟨form.gap.start + found, requested, Nat.le_add_right _ _, within⟩
  · intro assigns target isTarget
    have isWhole := Text.slice_append isTarget isBetween
    obtain ⟨found, isFound, isOffset, within⟩ :=
      exists_findBytes_eq isWhole (occurs_append_right holds)
    rw [searchStart, if_pos assigns, isOffset] at requested
    refine ⟨node.span.start + found, requested, Nat.le_add_right _ _, within, ?_⟩
    obtain ⟨_, _, _, _, targetEnds⟩ := Text.slice_eq_some_iff.mp isTarget
    rw [← Text.byteLength_le_findBytes_iff isFound]
    omega

def powerIntoProperty : Node :=
  .mk (.assignment (.punctuator .powerAssign)) ⟨0, 9⟩
    [.mk (.memberAccess false) ⟨0, 3⟩
      [.leaf (.nameReference ['a']) ⟨0, 1⟩, .leaf (.plainName ['b']) ⟨2, 3⟩],
      .leaf (.nameReference ['c']) ⟨8, 9⟩]

/-- Here the target holds no operator, so the operator is located behind it. -/
theorem operatorRequests_located_powerIntoProperty :
    operatorForm? powerIntoProperty = some ⟨"**=", .powerAssignment, ⟨3, 8⟩⟩ ∧
      Text.slice "a.b **= c".toList 3 8 = some " **= ".toList ∧
      Text.occurs "**=".toList " **= ".toList = true ∧
      ∃ offset, operatorRequests "a.b **= c".toList ⟨[], powerIntoProperty⟩
          ⟨"**=", .powerAssignment, ⟨3, 8⟩⟩ = [⟨offset, .powerAssignment⟩] ∧
        3 ≤ offset ∧ offset + 3 ≤ 8 := by
  have isForm : operatorForm? powerIntoProperty =
      some ⟨"**=", .powerAssignment, ⟨3, 8⟩⟩ := by
    decide +kernel
  have isBetween : Text.slice "a.b **= c".toList 3 8 = some " **= ".toList := by decide +kernel
  have holds : Text.occurs "**=".toList " **= ".toList = true := by decide +kernel
  have isTarget : Text.slice "a.b **= c".toList 0 3 = some "a.b".toList := by decide +kernel
  have located := @operatorRequests_located _ _ [] _ _ isForm isBetween holds
  obtain ⟨offset, requested, _, within, behindTarget⟩ := located.2 rfl "a.b".toList isTarget
  have notInTarget : ∀ place < "a.b".toList.length,
      ¬ "**=".toList <+: ("a.b".toList ++ " **= ".toList).drop place := by
    decide +kernel
  exact ⟨isForm, isBetween, holds, offset, requested, behindTarget.mpr notInTarget, within⟩

mutual

/-- Whether the nodes of a tree lie within each other and stand in order. -/
def wellNested : Node → Bool
  | .mk _ span parts => span.start ≤ span.stop && wellNestedWithin span.start span.stop parts

/-- Whether some trees stand in order between two offsets. -/
def wellNestedWithin (start stop : Nat) : List Node → Bool
  | [] => start ≤ stop
  | part :: rest =>
    start ≤ part.span.start && wellNested part && wellNestedWithin part.span.stop stop rest

end

/-- Whether an operator that stands between its operands is asked for before. -/
def isMislocated (code : List Char) (occurrence : Occurrence) : Bool :=
  (operatorForm? occurrence.node).any fun form =>
    (Text.slice code form.gap.start form.gap.stop).any (Text.occurs form.operator.toList) &&
      decide (operatorOffset code (searchStart occurrence.node form) form.gap.stop
        form.operator < form.gap.start)

theorem exists_of_isMislocated (mislocated : isMislocated code ⟨around, node⟩ = true) :
    ∃ form between offset, operatorForm? node = some form ∧
      Text.slice code form.gap.start form.gap.stop = some between ∧
      Text.occurs form.operator.toList between = true ∧
      operatorRequests code ⟨around, node⟩ form = [⟨offset, form.feature⟩] ∧
      offset < form.gap.start := by
  obtain ⟨form, isForm, passes⟩ := (Option.any_eq_true _ _).mp mislocated
  obtain ⟨standsBetween, before⟩ := Bool.and_eq_true_iff.mp passes
  obtain ⟨between, isBetween, holds⟩ := (Option.any_eq_true _ _).mp standsBetween
  exact ⟨form, between, _, isForm, isBetween, holds, operatorRequests_eq isForm,
    of_decide_eq_true before⟩

/-- Of `a['**='] **= 1` the operator is located in the index, where its characters first stand. -/
theorem locates_operator_in_target :
    check "a['**='] **= 1".toList .es5 .script =
        some ⟨"Unexpected token: exponentiation assignment `**=` requires es2016", 3, ⟨1, 3⟩⟩ ∧
      ∃ tree, Script.read .script "a['**='] **= 1".toList = .ok tree ∧ wellNested tree = true ∧
        ∃ around node, Occurs tree around node ∧
          ∃ form between offset, operatorForm? node = some form ∧
            Text.slice "a['**='] **= 1".toList form.gap.start form.gap.stop = some between ∧
            Text.occurs form.operator.toList between = true ∧
            operatorRequests "a['**='] **= 1".toList ⟨around, node⟩ form =
              [⟨offset, form.feature⟩] ∧
            offset < form.gap.start := by
  refine ⟨by decide +kernel, ?_⟩
  obtain ⟨tree, read, passes⟩ := exists_read_of_any
    (fun tree => wellNested tree &&
      (occurrences [] tree).any (isMislocated "a['**='] **= 1".toList))
    (by decide +kernel :
      (Script.read .script "a['**='] **= 1".toList).toOption.any _ = true)
  obtain ⟨nested, holdsOperator⟩ := Bool.and_eq_true_iff.mp passes
  obtain ⟨around, node, occurs, mislocated⟩ := any_occurrences_iff.mp holdsOperator
  exact ⟨tree, read, nested, around, node, occurs, exists_of_isMislocated mislocated⟩

end EditionGuard.Gate
