import EditionGuard.Proofs.Text.Frame

/-!
# Columns of numbers in frames

The labels of a frame are aligned on the right to six columns.  With its mark, a number of four
digits fills them; without it, the blank that stands in the place of the mark leaves room for five.
So numbers of one length end in one column as long as they have four digits at most.  Beyond that
the number of the marked row ends one column to the right of the others.
-/

namespace EditionGuard.Text

def rowDigits (row : List Char) : List Char := (row.dropWhile isMargin).takeWhile Char.isDigit

/-- The column, counted from zero, of the last digit of this number. -/
def numberColumn (row : List Char) : Nat :=
  (row.takeWhile isMargin).length + (rowDigits row).length - 1

theorem length_alignRight (width : Nat) (text : List Char) :
    (alignRight width text).length = max width text.length := by
  simp only [alignRight, spaces, List.length_append, List.length_replicate]
  omega

theorem length_frameLabel (marked : Bool) (number : Nat) :
    (frameLabel marked number).length =
      max 5 ((decimal number).length + if marked then 1 else 0) + 1 := by
  rw [frameLabel, length_alignRight, List.length_append]
  cases marked with
  | false =>
      simp only [Bool.false_eq_true, if_false, List.length_singleton]
      omega
  | true =>
      simp only [if_true, List.length_cons, List.length_nil]
      omega

/-- A row is its margin, the digits of its number, and what no longer belongs to the number. -/
theorem exists_frameRow_eq (marked : Bool) (number : Nat) (line : List Char) :
    ∃ margin, (∀ char ∈ margin, isMargin char = true) ∧
      margin.length + (decimal number).length = (frameLabel marked number).length ∧
      frameRow marked number line = margin ++ (decimal number ++ ' ' :: ("| ".toList ++ line)) := by
  obtain ⟨margin, isLabel, marginChars, _⟩ := frameLabel_eq marked number
  refine ⟨margin, ?_, ?_, ?_⟩
  · intro char member
    simpa [isMargin] using marginChars char member
  · rw [isLabel, List.length_append]
  · rw [frameRow, isLabel]
    simp

section Rows

variable (marked : Bool) (number : Nat) (line : List Char)

private theorem not_isMargin_of_mem_head? {rest : List Char} :
    ∀ char ∈ (decimal number ++ rest).head?, isMargin char = false := by
  intro char first
  have inNumber : char ∈ decimal number := by
    rw [List.head?_append_of_ne_nil _ decimal_ne_nil] at first
    exact List.mem_of_mem_head? first
  exact isMargin_eq_false_of_isDigit (isDigit_of_mem_decimal inNumber)

theorem rowDigits_frameRow : rowDigits (frameRow marked number line) = decimal number := by
  obtain ⟨margin, marginChars, _, isRow⟩ := exists_frameRow_eq marked number line
  rw [rowDigits, isRow, dropWhile_append_stopped marginChars (not_isMargin_of_mem_head? number),
    takeWhile_append_cons (fun _ member => isDigit_of_mem_decimal member) (by decide)]

theorem numberColumn_frameRow :
    numberColumn (frameRow marked number line) =
      max 5 ((decimal number).length + if marked then 1 else 0) := by
  obtain ⟨margin, marginChars, isLength, isRow⟩ := exists_frameRow_eq marked number line
  have isMarginOfRow : (frameRow marked number line).takeWhile isMargin = margin := by
    rw [isRow, takeWhile_append_stopped marginChars (not_isMargin_of_mem_head? number)]
  rw [numberColumn, isMarginOfRow, rowDigits_frameRow, isLength, length_frameLabel,
    Nat.add_sub_cancel]

end Rows

namespace FrameEntry

theorem numberColumn_row (entry : FrameEntry) :
    numberColumn entry.row =
      max 5 ((decimal entry.number).length + if entry.marked then 1 else 0) :=
  numberColumn_frameRow entry.marked entry.number entry.line

theorem numbers_eq {lines : List (List Char)} {marked : Nat} {entries : List FrameEntry}
    {indices : List Nat} (isAt : List.Forall₂ (IsAt lines marked) entries indices) :
    entries.map (·.number) = indices.map (· + 1) := by
  induction isAt with
  | nil => rfl
  | cons first _ inductionHypothesis =>
      rw [List.map_cons, List.map_cons, first.number, inductionHypothesis]

end FrameEntry

section Frames

variable {lines : List (List Char)} {highlight : Nat}

theorem exists_mem_frameEntries (nonempty : lines ≠ []) (highlight index : Nat)
    (notBefore : min highlight (lines.length - 1) - 3 ≤ index)
    (notBehind : index ≤ min (lines.length - 1) (min highlight (lines.length - 1) + 3)) :
    ∃ entry ∈ frameEntries lines highlight,
      entry.IsAt lines (min highlight (lines.length - 1)) index := by
  obtain ⟨sameLength, isAt⟩ := List.forall₂_iff_get.mp (frameEntries_isAt lines highlight nonempty)
  have inWindow : index ∈ List.range' (min highlight (lines.length - 1) - 3)
      (min (lines.length - 1) (min highlight (lines.length - 1) + 3) + 1 -
        (min highlight (lines.length - 1) - 3)) := by
    rw [List.mem_range'_1]
    omega
  obtain ⟨⟨place, inRange⟩, rfl⟩ := List.mem_iff_get.mp inWindow
  have inEntries : place < (frameEntries lines highlight).length := sameLength ▸ inRange
  exact ⟨_, List.get_mem _ ⟨place, inEntries⟩, isAt place inEntries inRange⟩

/-- Where the shown numbers have more than one digit, a line without a mark is shown as well. -/
theorem exists_marked_and_unmarked (nonempty : lines ≠ []) {digits : Nat} (several : 2 ≤ digits)
    (alike : ∀ entry ∈ frameEntries lines highlight, (decimal entry.number).length = digits) :
    ∃ marked ∈ frameEntries lines highlight, ∃ other ∈ frameEntries lines highlight,
      marked.marked = true ∧ other.marked = false := by
  obtain ⟨marked, markedMember, isAtMark⟩ := exists_mem_frameEntries nonempty
    highlight (min highlight (lines.length - 1)) (by omega) (by omega)
  have notFirst : min highlight (lines.length - 1) ≠ 0 := by
    intro isFirst
    have isOne : marked.number = 1 := by rw [isAtMark.number, isFirst]
    have oneDigit : (decimal 1).length = 1 := rfl
    have markedDigits := alike marked markedMember
    rw [isOne, oneDigit] at markedDigits
    omega
  obtain ⟨other, otherMember, isBefore⟩ := exists_mem_frameEntries nonempty
    highlight (min highlight (lines.length - 1) - 1) (by omega) (by omega)
  refine ⟨marked, markedMember, other, otherMember, isAtMark.marked_iff.mpr rfl, ?_⟩
  rw [Bool.eq_false_iff]
  intro isMarked
  have atMark := isBefore.marked_iff.mp isMarked
  omega

theorem digits_le_of_aligned (nonempty : lines ≠ []) {digits column : Nat}
    (alike : ∀ entry ∈ frameEntries lines highlight, (decimal entry.number).length = digits)
    (aligned : ∀ entry ∈ frameEntries lines highlight, numberColumn entry.row = column) :
    digits ≤ 4 := by
  by_contra many
  obtain ⟨marked, markedMember, other, otherMember, isMarked, notMarked⟩ :=
    exists_marked_and_unmarked nonempty (by omega) alike
  have markedColumn := aligned marked markedMember
  have otherColumn := aligned other otherMember
  rw [marked.numberColumn_row, alike marked markedMember, isMarked, if_pos rfl] at markedColumn
  rw [other.numberColumn_row, alike other otherMember, notMarked,
    if_neg Bool.false_ne_true] at otherColumn
  omega

/-- The rows of a frame are those of the lines at most three away from the marked one.  The number
of a row ends in the sixth column, or as far behind it as the number and the mark, if the row has
one, need.  So numbers with the same count of digits end in one column if and only if they have
four digits at most. -/
theorem frame_aligned_iff (lines : List (List Char)) (highlight : Nat) :
    (lines = [] → frame lines highlight false = []) ∧
    (lines ≠ [] →
      let marked := min highlight (lines.length - 1)
      ∃ entries : List FrameEntry,
        List.Forall₂ (FrameEntry.IsAt lines marked) entries
          (List.range' (marked - 3) (min (lines.length - 1) (marked + 3) + 1 - (marked - 3))) ∧
        frame lines highlight false =
          '\n' :: List.intercalate ['\n'] (entries.map FrameEntry.row) ∧
        (∀ entry ∈ entries, rowDigits entry.row = decimal entry.number ∧
          numberColumn entry.row =
            max 5 ((decimal entry.number).length + if entry.marked then 1 else 0)) ∧
        ∀ digits, (∀ entry ∈ entries, (decimal entry.number).length = digits) →
          ((∃ column, ∀ entry ∈ entries, numberColumn entry.row = column) ↔ digits ≤ 4)) := by
  constructor
  · rintro rfl
    rfl
  · intro nonempty marked
    refine ⟨frameEntries lines highlight, frameEntries_isAt lines highlight nonempty,
      frame_eq_intercalate lines highlight nonempty false, ?_, ?_⟩
    · intro entry _
      exact ⟨rowDigits_frameRow entry.marked entry.number entry.line, entry.numberColumn_row⟩
    · intro digits alike
      constructor
      · rintro ⟨column, aligned⟩
        exact digits_le_of_aligned nonempty alike aligned
      · intro few
        refine ⟨5, fun entry member => ?_⟩
        rw [entry.numberColumn_row, alike entry member]
        split <;> omega

/-- Numbers of two digits end in one column. -/
theorem frame_aligned_iff_twoDigits :
    List.replicate 20 "x".toList ≠ [] ∧
    ∃ entries : List FrameEntry,
      frame (List.replicate 20 "x".toList) 13 false =
        '\n' :: List.intercalate ['\n'] (entries.map FrameEntry.row) ∧
      (∀ entry ∈ entries, (decimal entry.number).length = 2) ∧
      ∃ column, ∀ entry ∈ entries, numberColumn entry.row = column := by
  have nonempty : List.replicate 20 "x".toList ≠ [] := by decide
  obtain ⟨entries, isAt, isFrame, _, aligned⟩ :=
    (frame_aligned_iff (List.replicate 20 "x".toList) 13).2 nonempty
  have alike : ∀ entry ∈ entries, (decimal entry.number).length = 2 := by
    intro entry member
    have inWindow : entry.number ∈ [11, 12, 13, 14, 15, 16, 17] := by
      rw [← show entries.map (·.number) = [11, 12, 13, 14, 15, 16, 17] from
        FrameEntry.numbers_eq isAt]
      exact List.mem_map_of_mem member
    exact (by decide : ∀ number ∈ [11, 12, 13, 14, 15, 16, 17], (decimal number).length = 2)
      entry.number inWindow
  exact ⟨nonempty, entries, isFrame, alike, (aligned 2 alike).mpr (by decide)⟩

/-- Behind the first 9999 lines the number of the marked row ends one column to the right of the
others, although all of them have five digits. -/
theorem frame_not_aligned_fiveDigits :
    frame (List.replicate 10003 []) 10002 false =
        "\n 10000 | \n 10001 | \n 10002 | \n> 10003 | ".toList ∧
      ([" 10000 | ", " 10001 | ", " 10002 | ", "> 10003 | "].map fun row =>
        (rowDigits row.toList).length) = [5, 5, 5, 5] ∧
      ([" 10000 | ", " 10001 | ", " 10002 | ", "> 10003 | "].map fun row =>
        numberColumn row.toList) = [5, 5, 5, 6] := by
  refine ⟨?_, by decide, by decide⟩
  have cut : List.replicate 10003 ([] : List Char) =
      List.replicate 9999 [] ++ List.replicate 4 [] := by
    rw [List.replicate_append_replicate]
  have nonempty : List.replicate 10003 ([] : List Char) ≠ [] := by
    rw [cut]
    exact List.append_ne_nil_of_right_ne_nil _ (by decide)
  have length : (List.zipIdx (List.replicate 9999 ([] : List Char))).length =
      min 10002 (10003 - 1) - 3 := by
    rw [List.length_zipIdx, List.length_replicate]
    decide
  have entries : frameEntries (List.replicate 10003 []) 10002 =
      [⟨false, 10000, []⟩, ⟨false, 10001, []⟩, ⟨false, 10002, []⟩, ⟨true, 10003, []⟩] := by
    rw [frameEntries, List.length_replicate, cut, List.zipIdx_append,
      List.drop_left' length, List.length_replicate]
    decide
  rw [frame_eq_intercalate _ _ nonempty, entries]
  decide

end Frames

end EditionGuard.Text
