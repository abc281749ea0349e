import EditionGuard.Proofs.Text.Cut
import EditionGuard.Proofs.Text.Numeral
import EditionGuard.Proofs.Text.Split
import EditionGuard.Text.Excerpt
import Mathlib.Data.List.Forall2
import Mathlib.Data.List.Infix
import Mathlib.Data.List.Nodup

/-!
# Frames

A frame can be read back.  Each of its rows is cut at the first bar into a label and a line: the
label holds the number of the line, counted from one, and a mark if the line is the marked one, and
what stands behind the bar is the line as it is, whatever bars it holds itself.  The rows are those
of the lines at most three away from the marked one.
-/

namespace EditionGuard.Text

/-! ## Reading -/

/-- A text cut in two at the first place where a separator stands. -/
def cutAt? (separator : List Char) : List Char → Option (List Char × List Char)
  | [] => none
  | char :: rest =>
    if separator <+: char :: rest then some ([], (char :: rest).drop separator.length)
    else (cutAt? separator rest).map fun (front, back) => (char :: front, back)

/-- What a row of a frame says. -/
structure FrameEntry where
  marked : Bool
  number : Nat
  line : List Char
deriving DecidableEq, Repr, Inhabited

namespace FrameEntry

/-- Whether an entry is that of the line at an index, where one index is marked. -/
structure IsAt (lines : List (List Char)) (marked : Nat) (entry : FrameEntry) (index : Nat) :
    Prop where
  number : entry.number = index + 1
  line : lines[index]? = some entry.line
  marked_iff : entry.marked = true ↔ index = marked

end FrameEntry

/-! ## Rows -/

/-- Whether a character can stand in a row before its number. -/
def isMargin (char : Char) : Bool := char == ' ' || char == '>'

theorem isMargin_eq_false_of_isDigit {char : Char} (isDigit : char.isDigit = true) :
    isMargin char = false := by
  rw [isMargin, Bool.or_eq_false_iff, beq_eq_false_iff_ne, beq_eq_false_iff_ne]
  constructor
  · rintro rfl
    cases isDigit
  · rintro rfl
    cases isDigit

theorem frameLabel_eq (marked : Bool) (number : Nat) :
    ∃ front, frameLabel marked number = front ++ decimal number ∧
      (∀ char ∈ front, char = ' ' ∨ char = '>') ∧ ('>' ∈ front ↔ marked = true) := by
  let mark : List Char := if marked then ['>', ' '] else [' ']
  refine ⟨spaces (6 - (mark ++ decimal number).length) ++ mark, ?_, ?_, ?_⟩
  · rw [List.append_assoc]
    rfl
  · intro char member
    rcases List.mem_append.mp member with blank | inMark
    · exact Or.inl (List.eq_of_mem_replicate blank)
    · cases marked with
      | false => exact Or.inl (by simpa [mark] using inMark)
      | true => exact Or.symm (by simpa [mark] using inMark)
  · have noMark : ∀ count, '>' ∉ spaces count := by simp [spaces]
    cases marked with
    | false => simp [noMark, mark]
    | true => simp [mark]

section Labels

variable (marked : Bool) (number : Nat)

theorem not_mem_frameLabel {char : Char} (notBlank : char ≠ ' ') (notMark : char ≠ '>')
    (noDigit : char.isDigit = false) : char ∉ frameLabel marked number := by
  obtain ⟨front, isLabel, frontChars, _⟩ := frameLabel_eq marked number
  rw [isLabel, List.mem_append]
  rintro (inFront | inNumber)
  · rcases frontChars char inFront with blank | mark
    · exact notBlank blank
    · exact notMark mark
  · exact not_mem_decimal noDigit inNumber

end Labels

namespace FrameEntry

def row (entry : FrameEntry) : List Char := frameRow entry.marked entry.number entry.line

def paintedRow (colour : Bool) (entry : FrameEntry) : List Char :=
  paint colour (if entry.marked then .yellow else .gray) entry.row

theorem not_mem_row {entry : FrameEntry} {char : Char} (notBlank : char ≠ ' ')
    (notMark : char ≠ '>') (notBar : char ≠ '|') (noDigit : char.isDigit = false)
    (absent : char ∉ entry.line) : char ∉ entry.row := by
  have notInLabel : char ∉ frameLabel entry.marked entry.number :=
    not_mem_frameLabel entry.marked entry.number notBlank notMark noDigit
  simp [row, frameRow, notInLabel, notBlank, notBar, absent]

end FrameEntry

/-! ## Windows -/

section Windows

variable (lines : List (List Char)) (highlight : Nat)

def frameEntries : List FrameEntry :=
  let marked := min highlight (lines.length - 1)
  ((lines.zipIdx.drop (marked - 3)).take (marked + 4 - (marked - 3))).map fun (line, index) =>
    ⟨index == marked, index + 1, line⟩

theorem frameRows_eq :
    frameRows lines highlight =
      (frameEntries lines highlight).map fun entry => (entry.marked, entry.row) := by
  rw [frameEntries, List.map_map]
  rfl

theorem frameEntries_isAt (nonempty : lines ≠ []) :
    let marked := min highlight (lines.length - 1)
    List.Forall₂ (FrameEntry.IsAt lines marked) (frameEntries lines highlight)
      (List.range' (marked - 3) (min (lines.length - 1) (marked + 3) + 1 - (marked - 3))) := by
  intro marked
  have someLine : 0 < lines.length := List.length_pos_iff.mpr nonempty
  have inLines : marked ≤ lines.length - 1 := Nat.min_le_right _ _
  rw [List.forall₂_iff_get]
  constructor
  · simp only [frameEntries, List.length_map, List.length_take, List.length_drop,
      List.length_zipIdx, List.length_range']
    omega
  · intro place inEntries inRange
    simp only [List.length_range'] at inRange
    have inside : marked - 3 + place < lines.length := by omega
    simp only [frameEntries, List.get_eq_getElem, List.getElem_map, List.getElem_take,
      List.getElem_drop, List.getElem_zipIdx, List.getElem_range', Nat.zero_add, Nat.one_mul]
    exact {
      number := rfl
      line := List.getElem?_eq_getElem inside
      marked_iff := beq_iff_eq }

theorem frame_eq_intercalate (nonempty : lines ≠ []) (colour : Bool) :
    frame lines highlight colour = '\n' ::
      List.intercalate ['\n'] ((frameEntries lines highlight).map (·.paintedRow colour)) := by
  have notEmpty : lines.isEmpty = false := by simpa using nonempty
  simp only [frame, notEmpty, frameRows_eq, List.map_map]
  rfl

variable {lines highlight} in
theorem line_mem_of_mem_frameEntries {entry : FrameEntry}
    (member : entry ∈ frameEntries lines highlight) : entry.line ∈ lines := by
  obtain ⟨numbered, isNumbered, rfl⟩ := List.mem_map.mp member
  have inLines := List.mem_of_mem_drop (List.mem_of_mem_take isNumbered)
  exact List.fst_mem_of_mem_zipIdx inLines

end Windows

/-! ## Lines of a text -/

end EditionGuard.Text
