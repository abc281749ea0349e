import EditionGuard.Proofs.Text.Boundary
import EditionGuard.Text.Excerpt
import Mathlib.Data.List.DropRight

/-!
# Pointers

The window of a pointer is a piece of the line that holds the offset, and the caret stands under
the character at the offset wherever the window shows it.  The same pointer is found by offsets in
bytes: all slices on the way exist, and no difference goes below zero.
-/

namespace EditionGuard.Text

theorem rdropWhile_append_lastLine (text : List Char) :
    text.rdropWhile (· != '\n') ++ lastLine text = text :=
  List.rdropWhile_append_rtakeWhile

theorem not_mem_lineAt (code : List Char) (offset : Nat) : '\n' ∉ lineAt code offset := by
  rw [lineAt, List.mem_append]
  rintro (inFront | behind)
  · exact not_mem_lastLine _ inFront
  · exact not_mem_takeWhile_ne _ '\n' behind

theorem getElem?_splitAt_behind_before (code : List Char) (offset : Nat) :
    (splitAt '\n' code)[(Position.behind (before code offset)).line - 1]? =
      some (lineAt code offset) := by
  have isLine := getElem?_splitAt (before code offset) (after code offset)
  rwa [before_append_after] at isLine

/-- A place that has something else than carriage returns behind it is not trimmed. -/
theorem getElem?_trimReturns {text : List Char} {place : Nat}
    (visible : ∃ char ∈ text.drop place, char ≠ '\r') :
    (trimReturns text)[place]? = text[place]? := by
  obtain ⟨char, member, notReturn⟩ := visible
  have whole : trimReturns text ++ text.rtakeWhile (· == '\r') = text :=
    List.rdropWhile_append_rtakeWhile
  have kept : place < (trimReturns text).length := by
    by_contra beyond
    rw [← whole, List.drop_append, List.drop_eq_nil_of_le (Nat.le_of_not_lt beyond),
      List.nil_append] at member
    have isReturn := List.mem_rtakeWhile_imp (List.mem_of_mem_drop member)
    exact notReturn (by simpa using isReturn)
  conv => rhs; rw [← whole, List.getElem?_append_left kept]

theorem pointerWindow_isInfix (code : List Char) (offset : Nat) :
    (pointerWindow code offset).1 <:+: lineAt code offset := by
  have trimmed : trimReturns (lineAt code offset) <+: lineAt code offset :=
    List.rdropWhile_prefix (· == '\r') (lineAt code offset)
  refine List.IsInfix.trans ?_ trimmed.isInfix
  exact List.IsInfix.trans (List.take_prefix _ _).isInfix (List.drop_suffix _ _).isInfix

theorem length_pointerWindow_le (code : List Char) (offset : Nat) :
    (pointerWindow code offset).1.length ≤ 80 :=
  List.length_take_le 80 _

theorem place_pointerWindow (code : List Char) (offset : Nat) :
    (pointerWindow code offset).2 = min (Position.behind (before code offset)).column 40 := by
  have halfWidth : pointerWidth / 2 = 40 := rfl
  simp only [pointerWindow, Position.behind, halfWidth]
  omega

theorem getElem?_lineAt {code rest : List Char} {offset : Nat} {char : Char}
    (stands : dropBytes code (floorBoundary code offset) = some (char :: rest))
    (inLine : char ≠ '\n') :
    (lineAt code offset)[(Position.behind (before code offset)).column]? = some char := by
  have behind : after code offset = char :: rest := by
    rw [dropBytes_floorBoundary_eq_after] at stands
    exact Option.some.inj stands
  have begins : firstLine (after code offset) = char :: firstLine rest := by
    rw [behind]
    exact List.takeWhile_cons_of_pos (by simpa using inLine)
  rw [lineAt, begins, Position.behind]
  simp only [List.getElem?_append_right (Nat.le_refl _), Nat.sub_self, List.getElem?_cons_zero]

/-- The window shows the character at the offset above the caret, unless the offset stands at the
end of the line or before carriage returns only. -/
theorem getElem?_pointerWindow {code rest : List Char} {offset : Nat} {char : Char}
    (stands : dropBytes code (floorBoundary code offset) = some (char :: rest))
    (inLine : char ≠ '\n')
    (visible : ∃ other ∈ (lineAt code offset).drop (Position.behind (before code offset)).column,
      other ≠ '\r') :
    (pointerWindow code offset).1[(pointerWindow code offset).2]? = some char := by
  have isChar := getElem?_lineAt stands inLine
  rw [← getElem?_trimReturns visible] at isChar
  have inWindow : (pointerWindow code offset).2 < pointerWidth := by
    rw [place_pointerWindow]
    exact Nat.lt_of_le_of_lt (Nat.min_le_right _ _) (by decide)
  simp only [pointerWindow] at inWindow ⊢
  rw [List.getElem?_take_of_lt inWindow, List.getElem?_drop,
    Nat.add_sub_of_le (Nat.sub_le _ _)]
  exact isChar

/-- A difference that must not go below zero. -/
def difference? (larger smaller : Nat) : Option Nat :=
  if smaller ≤ larger then some (larger - smaller) else none

theorem difference?_of_le {larger smaller : Nat} (ordered : smaller ≤ larger) :
    difference? larger smaller = some (larger - smaller) :=
  if_pos ordered

/-- Steps down from an offset until the text has a boundary there; nothing if there is none. -/
def stepDown? (text : List Char) : Nat → Option Nat
  | 0 => if (dropBytes text 0).isSome then some 0 else none
  | offset + 1 =>
    if (dropBytes text (offset + 1)).isSome then some (offset + 1)
    else (difference? (offset + 1) 1).bind fun _ => stepDown? text offset

/-- The pointer of a text by slices of it.  The line is cut out behind the last line feed before the
offset and in front of the next one. -/
def pointerOfSlices? (code : List Char) (offset : Nat) (colour : Bool) : Option (List Char) := do
  let boundary ← stepDown? code (min offset (byteLength code))
  let front ← slice code 0 boundary
  let back ← slice code boundary (byteLength code)
  let lineStart := byteLength (front.rdropWhile (· != '\n'))
  let lineEnd := (findBytes ['\n'] back).elim (byteLength code) (boundary + ·)
  let line ← slice code lineStart lineEnd
  let inFront ← slice code lineStart boundary
  let start := inFront.length - pointerWidth / 2
  let place ← difference? inFront.length start
  let indent ← difference? (place + labelIndent) 1
  let window := ((trimReturns line).drop start).take pointerWidth
  return window ++ '\n' :: paint colour .yellow (spaces indent ++ ['^'])

theorem stepDown?_eq_some {text : List Char} {offset boundary : Nat}
    (greatest : IsGreatest {other | IsBoundary text other ∧ other ≤ offset} boundary) :
    stepDown? text offset = some boundary := by
  obtain ⟨⟨isBoundary, reached⟩, above⟩ := greatest
  induction offset with
  | zero =>
      obtain rfl : boundary = 0 := Nat.le_zero.mp reached
      rw [stepDown?, if_pos (isSome_dropBytes_iff.mpr isBoundary)]
  | succ offset inductionHypothesis =>
      rw [stepDown?]
      by_cases stands : IsBoundary text (offset + 1)
      · have same : boundary = offset + 1 :=
          Nat.le_antisymm reached (above ⟨stands, Nat.le_refl _⟩)
        rw [if_pos (isSome_dropBytes_iff.mpr stands), same]
      · have lower : boundary ≤ offset := by
          refine Nat.le_of_lt_succ (Nat.lt_of_le_of_ne reached ?_)
          rintro rfl
          exact stands isBoundary
        -- Inside a character the greatest boundary is also the greatest one step down.
        rw [if_neg (by rwa [isSome_dropBytes_iff]),
          difference?_of_le (Nat.succ_le_succ (Nat.zero_le offset)), Option.bind_some]
        refine inductionHypothesis ?_ lower
        rintro other ⟨isOther, notAbove⟩
        exact above ⟨isOther, Nat.le_succ_of_le notAbove⟩

section Slices

variable (code : List Char) (offset : Nat)

theorem slice_lastLine :
    slice code (byteLength ((before code offset).rdropWhile (· != '\n')))
      (floorBoundary code offset) = some (lastLine (before code offset)) := by
  have whole := rdropWhile_append_lastLine (before code offset)
  refine slice_eq_some_iff.mpr ⟨_, after code offset, ?_, rfl, ?_⟩
  · rw [whole, before_append_after]
  · rw [← byteLength_append, whole, byteLength_before]

/-- The next line feed ends the line, and the end of the text does if there is none. -/
theorem lineEnd_eq :
    (findBytes ['\n'] (after code offset)).elim (byteLength code) (floorBoundary code offset + ·) =
      floorBoundary code offset + byteLength (firstLine (after code offset)) := by
  rw [findBytes_singleton]
  by_cases broken : '\n' ∈ after code offset
  · rw [if_pos broken, Option.elim_some, firstLine]
  · rw [if_neg broken, Option.elim_none, firstLine, takeWhile_ne_of_not_mem broken,
      floorBoundary_add_byteLength_after]

theorem slice_firstLine :
    slice code (floorBoundary code offset)
        (floorBoundary code offset + byteLength (firstLine (after code offset))) =
      some (firstLine (after code offset)) := by
  obtain ⟨back, split⟩ := List.takeWhile_prefix (l := after code offset) (· != '\n')
  refine slice_eq_some_iff.mpr
    ⟨before code offset, back, ?_, byteLength_before code offset, rfl⟩
  rw [firstLine, List.append_assoc, split, before_append_after]

end Slices

/-- No slice and no difference on the way to a pointer fails, whatever the offset. -/
theorem pointerOfSlices?_eq (code : List Char) (offset : Nat) (colour : Bool) :
    pointerOfSlices? code offset colour = some (pointer code offset colour) := by
  have boundary := stepDown?_eq_some (isGreatest_floorBoundary code offset)
  have inFront := slice_lastLine code offset
  have line : slice code (byteLength ((before code offset).rdropWhile (· != '\n')))
      (floorBoundary code offset + byteLength (firstLine (after code offset))) =
        some (lineAt code offset) :=
    slice_append inFront (slice_firstLine code offset)
  have place : difference? (lastLine (before code offset)).length
      ((lastLine (before code offset)).length - pointerWidth / 2) =
        some (pointerWindow code offset).2 :=
    difference?_of_le (Nat.sub_le _ _)
  have indent : difference? ((pointerWindow code offset).2 + labelIndent) 1 =
      some ((pointerWindow code offset).2 + labelIndent - 1) :=
    difference?_of_le (Nat.le_add_left 1 _)
  simp only [pointerOfSlices?, boundary, slice_before, slice_after, lineEnd_eq, line, inFront,
    place, indent, Option.bind_eq_bind, Option.bind_some]
  rfl

/-- Two lines that show a piece of the line that holds an offset, and mark the character there. -/
structure Marks (code : List Char) (offset : Nat) (line window caret : List Char) : Prop where
  isLine : (splitAt '\n' code)[(Position.behind (before code offset)).line - 1]? = some line
  isInfix : window <:+: line
  unbroken : '\n' ∉ window
  length_le : window.length ≤ 80
  caret_eq : caret = spaces (caret.length - 1) ++ ['^']
  indented : 11 ≤ caret.length
  place : caret.length - 11 = min (Position.behind (before code offset)).column 40
  shown : ∀ char rest, dropBytes code (floorBoundary code offset) = some (char :: rest) →
    char ≠ '\n' →
    (∃ other ∈ line.drop (Position.behind (before code offset)).column, other ≠ '\r') →
      window[caret.length - 11]? = some char

/-- A pointer marks the character at its offset, and is made without a failure.  The column above
the caret has 32 bits if the text is shorter than 2^32 bytes, and is that of the position there. -/
theorem pointer_marks (code : List Char) (offset : Nat) :
    (∃ line window caret, pointer code offset false = window ++ '\n' :: caret ∧
      Marks code offset line window caret) ∧
    (∀ colour, pointerOfSlices? code offset colour = some (pointer code offset colour)) ∧
    (byteLength code < Word.count32 →
      (Position.behind (before code offset)).column < Word.count32 ∧
      ∀ position, Position.ofOffset code offset = .ok position →
        position = Position.behind (before code offset)) := by
  refine ⟨?_, pointerOfSlices?_eq code offset, ?_⟩
  rotate_left
  · intro short
    refine ⟨Position.column_behind_before_lt short, ?_⟩
    intro position located
    exact ((Position.ofOffset_eq_ok_iff short).mp located).2
  let place := (pointerWindow code offset).2
  have caretLength : (spaces (place + labelIndent - 1) ++ ['^']).length = place + 11 := by
    rw [List.length_append, spaces, List.length_replicate]
    rfl
  have underPlace : (spaces (place + labelIndent - 1) ++ ['^']).length - 11 = place := by
    rw [caretLength, Nat.add_sub_cancel]
  refine ⟨lineAt code offset, (pointerWindow code offset).1,
    spaces (place + labelIndent - 1) ++ ['^'], rfl, ?_⟩
  exact {
    isLine := getElem?_splitAt_behind_before code offset
    isInfix := pointerWindow_isInfix code offset
    unbroken := fun broken =>
      not_mem_lineAt code offset ((pointerWindow_isInfix code offset).subset broken)
    length_le := length_pointerWindow_le code offset
    caret_eq := by rw [caretLength]; rfl
    indented := by rw [caretLength]; exact Nat.le_add_left 11 place
    place := by rw [underPlace]; exact place_pointerWindow code offset
    shown := by
      intro char rest stands inLine visible
      rw [underPlace]
      exact getElem?_pointerWindow stands inLine visible }

/-- In a long line the caret stands in the middle of the window, also for an offset inside a
character behind wide ones. -/
theorem pointer_marks_middle :
    let code := 'a' :: '\n' :: (List.replicate 45 'é' ++ "¿x\r\nb".toList)
    ∃ window caret, pointer code 93 false = window ++ '\n' :: caret ∧
      caret.length - 11 = 40 ∧ window[40]? = some '¿' := by
  intro code
  obtain ⟨⟨line, window, caret, made, marks⟩, -, -⟩ := pointer_marks code 93
  have isLine : line = List.replicate 45 'é' ++ "¿x\r".toList :=
    Option.some.inj (marks.isLine.symm.trans (by decide +kernel))
  have place : caret.length - 11 = 40 := marks.place.trans (by decide +kernel)
  have stands : dropBytes code (floorBoundary code 93) = some "¿x\r\nb".toList := by
    decide +kernel
  have visible : ∃ other ∈ line.drop (Position.behind (before code 93)).column, other ≠ '\r' := by
    rw [isLine]
    exact ⟨'x', by decide +kernel, by decide⟩
  have shown := marks.shown '¿' "x\r\nb".toList stands (by decide) visible
  rw [place] at shown
  exact ⟨window, caret, made, place, shown⟩

end EditionGuard.Text
