import EditionGuard.Proofs.Text.Cut
import EditionGuard.Text.Position

/-!
# Places in texts

The position of an offset leads back to it: counting lines and characters from the beginning of
the text ends where the offset stands.  Once something is put in front of the text, the place has
another position, which counts what is in front as well.
-/

namespace EditionGuard.Text

theorem before_append_after (text : List Char) (offset : Nat) :
    before text offset ++ after text offset = text := by
  induction text generalizing offset with
  | nil => rfl
  | cons char rest inductionHypothesis =>
      rw [before, after]
      by_cases within : char.utf8Size ≤ offset
      · rw [if_pos within, if_pos within, List.cons_append, inductionHypothesis]
      · rw [if_neg within, if_neg within, List.nil_append]

theorem dropBytes_cons_of_le {char : Char} {offset : Nat} (within : char.utf8Size ≤ offset)
    (rest : List Char) :
    dropBytes (char :: rest) offset = dropBytes rest (offset - char.utf8Size) := by
  have positive : 0 < char.utf8Size := char.utf8Size_pos
  cases offset with
  | zero => omega
  | succ count => rw [dropBytes, if_pos within]

theorem dropBytes_floorBoundary (text : List Char) (offset : Nat) :
    dropBytes text (floorBoundary text offset) =
      some (after text (floorBoundary text offset)) := by
  induction text generalizing offset with
  | nil => rfl
  | cons char rest inductionHypothesis =>
      rw [floorBoundary]
      by_cases within : char.utf8Size ≤ offset
      · have reached : char.utf8Size ≤
            char.utf8Size + floorBoundary rest (offset - char.utf8Size) := Nat.le_add_right _ _
        rw [if_pos within, dropBytes_cons_of_le reached, after, if_pos reached,
          Nat.add_sub_cancel_left]
        exact inductionHypothesis (offset - char.utf8Size)
      · have notReached : ¬ char.utf8Size ≤ 0 := Nat.not_le.mpr char.utf8Size_pos
        rw [if_neg within, after, if_neg notReached]
        rfl

section Lines

variable {front back : List Char}

theorem lastLine_append_of_not_mem (unbroken : '\n' ∉ back) :
    lastLine (front ++ back) = lastLine front ++ back := by
  have turned : '\n' ∉ back.reverse := mt List.mem_reverse.mp unbroken
  rw [lastLine, List.reverse_append, takeWhile_ne_append turned, List.reverse_append,
    List.reverse_reverse]
  rfl

theorem lastLine_of_not_mem (unbroken : '\n' ∉ back) : lastLine back = back :=
  @lastLine_append_of_not_mem [] back unbroken

theorem lastLine_append_of_mem (broken : '\n' ∈ back) :
    lastLine (front ++ back) = lastLine back := by
  have stops : ¬ (back.reverse.takeWhile (· != '\n')).length = back.reverse.length := by
    intro sameLength
    have whole := (List.takeWhile_prefix (· != '\n')).eq_of_length sameLength
    have absent := not_mem_takeWhile_ne back.reverse '\n'
    rw [whole] at absent
    exact absent (List.mem_reverse.mpr broken)
  rw [lastLine, List.reverse_append, List.takeWhile_append, if_neg stops]
  rfl

theorem not_mem_lastLine (text : List Char) : '\n' ∉ lastLine text := by
  rw [lastLine, List.mem_reverse]
  exact not_mem_takeWhile_ne text.reverse '\n'

theorem length_le_length_firstLine_append (unbroken : '\n' ∉ front) :
    front.length ≤ (firstLine (front ++ back)).length := by
  rw [firstLine, takeWhile_ne_append unbroken, List.length_append]
  exact Nat.le_add_right _ _

end Lines

def withoutLines : Nat → List Char → Option (List Char)
  | 0, text => some text
  | _ + 1, [] => none
  | count + 1, char :: rest =>
    if char = '\n' then withoutLines count rest else withoutLines (count + 1) rest

theorem withoutLines_append (front back : List Char) :
    withoutLines (front.count '\n') (front ++ back) = some (lastLine front ++ back) := by
  -- The last line of `char :: rest` is that of `rest` as soon as `rest` has a line feed.
  induction front with
  | nil => simp [withoutLines, lastLine]
  | cons char rest inductionHypothesis =>
      by_cases broken : '\n' ∈ rest
      · have sameLine : lastLine (char :: rest) = lastLine rest :=
          @lastLine_append_of_mem [char] rest broken
        rw [sameLine, ← inductionHypothesis, List.cons_append]
        by_cases isBreak : char = '\n'
        · rw [isBreak, List.count_cons_self, withoutLines, if_pos rfl]
        · have positive : 0 < rest.count '\n' := List.count_pos_iff.mpr broken
          obtain ⟨count, isCount⟩ := Nat.exists_eq_succ_of_ne_zero positive.ne'
          rw [List.count_cons_of_ne isBreak, isCount, withoutLines, if_neg isBreak]
      · have addedTo : lastLine (char :: rest) = lastLine [char] ++ rest :=
          @lastLine_append_of_not_mem [char] rest broken
        rw [addedTo]
        by_cases isBreak : char = '\n'
        · rw [isBreak, List.count_cons_self, List.count_eq_zero.mpr broken, List.cons_append,
            withoutLines, if_pos rfl, withoutLines]
          rfl
        · have single : lastLine [char] = [char] :=
            lastLine_of_not_mem (by simpa using Ne.symm isBreak)
          rw [List.count_cons_of_ne isBreak, List.count_eq_zero.mpr broken, withoutLines, single]
          rfl

namespace Position

def textFrom? (position : Position) (text : List Char) : Option (List Char) :=
  if position.line = 0 then none
  else (withoutLines (position.line - 1) text).bind fun lines =>
    if position.column ≤ (firstLine lines).length then some (lines.drop position.column)
    else none

theorem textFrom?_behind (read rest : List Char) :
    (behind read).textFrom? (read ++ rest) = some rest := by
  have inLine : (lastLine read).length ≤ (firstLine (lastLine read ++ rest)).length :=
    length_le_length_firstLine_append (not_mem_lastLine read)
  simp only [textFrom?, behind, Nat.add_one_ne_zero, if_false, Nat.add_sub_cancel,
    withoutLines_append, Option.bind_some, if_pos inLine, List.drop_left]

/-- The position that a position has once a text is put in front. -/
def beyond (front : List Char) (position : Position) : Position where
  line := position.line + front.count '\n'
  column :=
    if position.line = 1 then (lastLine front).length + position.column else position.column

theorem behind_append (front read : List Char) :
    behind (front ++ read) = (behind read).beyond front := by
  by_cases broken : '\n' ∈ read
  · have notFirst : (behind read).line ≠ 1 := by
      have positive := List.count_pos_iff.mpr broken
      simp only [behind]
      omega
    rw [beyond, if_neg notFirst, behind, behind, List.count_append,
      lastLine_append_of_mem broken, Nat.add_comm (front.count '\n'), Nat.add_right_comm]
  · have first : (behind read).line = 1 := by
      rw [behind, List.count_eq_zero.mpr broken]
    rw [beyond, if_pos first, behind, behind, List.count_append,
      lastLine_append_of_not_mem broken, lastLine_of_not_mem broken, List.length_append,
      Nat.add_comm (front.count '\n'), Nat.add_right_comm]

/-- A text in front changes no position if it has no line feed and the position stands on a later
line than the first, or if it is empty. -/
theorem beyond_eq_self_iff {front : List Char} {position : Position} :
    position.beyond front = position ↔ '\n' ∉ front ∧ (position.line = 1 → front = []) := by
  obtain ⟨line, column⟩ := position
  simp only [beyond, Position.mk.injEq]
  constructor
  · rintro ⟨sameLine, sameColumn⟩
    have unbroken : '\n' ∉ front := List.count_eq_zero.mp (by omega)
    refine ⟨unbroken, ?_⟩
    intro first
    rw [if_pos first, lastLine_of_not_mem unbroken] at sameColumn
    exact List.length_eq_zero_iff.mp (by omega)
  · rintro ⟨unbroken, firstOnly⟩
    refine ⟨by rw [List.count_eq_zero.mpr unbroken, Nat.add_zero], ?_⟩
    by_cases first : line = 1
    · rw [if_pos first, firstOnly first]
      exact Nat.zero_add column
    · rw [if_neg first]

end Position

end EditionGuard.Text
