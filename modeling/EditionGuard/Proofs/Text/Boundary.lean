import EditionGuard.Proofs.Text.Slice
import EditionGuard.Proofs.Text.Split
import Mathlib.Order.Bounds.Defs

/-!
# Boundaries and addresses

The offsets between the characters of a text are its boundaries.  Every offset counts as the
greatest boundary that it reaches, and so does its position: the position is that of a line of the
text, and walking there leads back to the boundary.  So different boundaries have different
positions, in the same order.
-/

namespace EditionGuard.Text

/-! ## Boundaries -/

/-- Whether an offset stands between two characters of a text or at one of its ends. -/
def IsBoundary (text : List Char) (offset : Nat) : Prop :=
  ∃ front, front <+: text ∧ byteLength front = offset

theorem isSome_dropBytes_iff {text : List Char} {offset : Nat} :
    (dropBytes text offset).isSome = true ↔ IsBoundary text offset := by
  simp only [Option.isSome_iff_exists, dropBytes_eq_some_iff]
  constructor
  · rintro ⟨rest, front, rfl, length⟩
    exact ⟨front, List.prefix_append front rest, length⟩
  · rintro ⟨front, ⟨rest, rfl⟩, length⟩
    exact ⟨rest, front, rfl, length⟩

theorem before_prefix_text (text : List Char) (offset : Nat) : before text offset <+: text :=
  ⟨after text offset, before_append_after text offset⟩

theorem byteLength_before (text : List Char) (offset : Nat) :
    byteLength (before text offset) = floorBoundary text offset := by
  induction text generalizing offset with
  | nil => rfl
  | cons char rest inductionHypothesis =>
      rw [before, floorBoundary]
      by_cases within : char.utf8Size ≤ offset
      · rw [if_pos within, if_pos within, byteLength_cons, inductionHypothesis]
      · rw [if_neg within, if_neg within, byteLength_nil]

theorem dropBytes_floorBoundary_eq_after (text : List Char) (offset : Nat) :
    dropBytes text (floorBoundary text offset) = some (after text offset) :=
  dropBytes_eq_some_iff.mpr
    ⟨before text offset, (before_append_after text offset).symm, byteLength_before text offset⟩

theorem slice_before (text : List Char) (offset : Nat) :
    slice text 0 (floorBoundary text offset) = some (before text offset) := by
  refine slice_eq_some_iff.mpr ⟨[], after text offset, ?_, rfl, ?_⟩
  · rw [List.nil_append, before_append_after]
  · rw [Nat.zero_add, byteLength_before]

theorem floorBoundary_add_byteLength_after (text : List Char) (offset : Nat) :
    floorBoundary text offset + byteLength (after text offset) = byteLength text := by
  rw [← byteLength_before, ← byteLength_append, before_append_after]

theorem slice_after (text : List Char) (offset : Nat) :
    slice text (floorBoundary text offset) (byteLength text) = some (after text offset) := by
  refine slice_eq_some_iff.mpr ⟨before text offset, [], ?_, byteLength_before text offset,
    floorBoundary_add_byteLength_after text offset⟩
  rw [List.append_nil, before_append_after]

theorem floorBoundary_le (text : List Char) (offset : Nat) :
    floorBoundary text offset ≤ offset := by
  induction text generalizing offset with
  | nil => exact Nat.zero_le offset
  | cons char rest inductionHypothesis =>
      rw [floorBoundary]
      by_cases within : char.utf8Size ≤ offset
      · have reached := inductionHypothesis (offset - char.utf8Size)
        rw [if_pos within]
        omega
      · rw [if_neg within]
        exact Nat.zero_le offset

theorem prefix_before {front text : List Char} {offset : Nat} (begins : front <+: text)
    (reached : byteLength front ≤ offset) : front <+: before text offset := by
  induction text generalizing front offset with
  | nil =>
      rw [List.prefix_nil.mp begins]
      exact List.nil_prefix
  | cons char rest inductionHypothesis =>
      cases front with
      | nil => exact List.nil_prefix
      | cons first more =>
          obtain ⟨rfl, moreBegins⟩ := List.cons_prefix_cons.mp begins
          rw [byteLength_cons] at reached
          have within : first.utf8Size ≤ offset := by omega
          rw [before, if_pos within]
          exact List.cons_prefix_cons.mpr ⟨rfl, inductionHypothesis moreBegins (by omega)⟩

theorem byteLength_le_of_prefix {front text : List Char} (begins : front <+: text) :
    byteLength front ≤ byteLength text := by
  obtain ⟨rest, rfl⟩ := begins
  rw [byteLength_append]
  exact Nat.le_add_right _ _

theorem length_le_byteLength (text : List Char) : text.length ≤ byteLength text := by
  induction text with
  | nil => exact Nat.le_refl 0
  | cons char rest inductionHypothesis =>
      have positive : 0 < char.utf8Size := char.utf8Size_pos
      rw [List.length_cons, byteLength_cons]
      omega

theorem isGreatest_floorBoundary (text : List Char) (offset : Nat) :
    IsGreatest {boundary | IsBoundary text boundary ∧ boundary ≤ min offset (byteLength text)}
      (floorBoundary text offset) := by
  have begins := before_prefix_text text offset
  constructor
  · have inText := byteLength_le_of_prefix begins
    rw [byteLength_before] at inText
    exact ⟨⟨before text offset, begins, byteLength_before text offset⟩,
      Nat.le_min.mpr ⟨floorBoundary_le text offset, inText⟩⟩
  · rintro boundary ⟨⟨front, frontBegins, rfl⟩, reached⟩
    rw [← byteLength_before]
    exact byteLength_le_of_prefix (prefix_before frontBegins (Nat.le_min.mp reached).1)

theorem isBoundary_floorBoundary (text : List Char) (offset : Nat) :
    IsBoundary text (floorBoundary text offset) :=
  (isGreatest_floorBoundary text offset).1.1

theorem IsBoundary.le_byteLength {text : List Char} {offset : Nat}
    (isBoundary : IsBoundary text offset) : offset ≤ byteLength text := by
  obtain ⟨front, begins, rfl⟩ := isBoundary
  exact byteLength_le_of_prefix begins

theorem floorBoundary_eq_self {text : List Char} {offset : Nat}
    (isBoundary : IsBoundary text offset) : floorBoundary text offset = offset := by
  have reached : offset ≤ min offset (byteLength text) :=
    Nat.le_min.mpr ⟨Nat.le_refl _, isBoundary.le_byteLength⟩
  have greatest := (isGreatest_floorBoundary text offset).2 ⟨isBoundary, reached⟩
  exact Nat.le_antisymm (floorBoundary_le text offset) greatest

theorem floorBoundary_mono (text : List Char) {lower upper : Nat} (ordered : lower ≤ upper) :
    floorBoundary text lower ≤ floorBoundary text upper := by
  have reached : byteLength (before text lower) ≤ upper := by
    rw [byteLength_before]
    exact (floorBoundary_le text lower).trans ordered
  rw [← byteLength_before, ← byteLength_before]
  exact byteLength_le_of_prefix (prefix_before (before_prefix_text text lower) reached)

/-! ## Lines -/

theorem head?_splitAt (text : List Char) : (splitAt '\n' text)[0]? = some (firstLine text) := by
  induction text with
  | nil => rfl
  | cons char rest inductionHypothesis =>
      by_cases isBreak : char = '\n'
      · rw [isBreak, splitAt_cons_self]
        rfl
      · obtain ⟨first, others, cut, cutWhole⟩ := exists_splitAt_cons isBreak rest
        rw [cut] at inductionHypothesis
        have same : first = firstLine rest := Option.some.inj inductionHypothesis
        have goesOn : firstLine (char :: rest) = char :: firstLine rest :=
          List.takeWhile_cons_of_pos (by simpa using isBreak)
        rw [cutWhole, same, goesOn]
        rfl

theorem lastLine_cons_of_mem {char : Char} {rest : List Char} (broken : '\n' ∈ rest) :
    lastLine (char :: rest) = lastLine rest :=
  @lastLine_append_of_mem [char] rest broken

theorem lastLine_cons_of_not_mem {char : Char} {rest : List Char} (unbroken : '\n' ∉ rest) :
    lastLine (char :: rest) = lastLine [char] ++ rest :=
  @lastLine_append_of_not_mem [char] rest unbroken

theorem lastLine_break (rest : List Char) : lastLine ('\n' :: rest) = lastLine rest := by
  by_cases broken : '\n' ∈ rest
  · exact lastLine_cons_of_mem broken
  · rw [lastLine_cons_of_not_mem broken, lastLine_of_not_mem broken]
    rfl

/-- The line of a place: what the text in front holds of it, and what the text behind does. -/
theorem getElem?_splitAt (front back : List Char) :
    (splitAt '\n' (front ++ back))[front.count '\n']? =
      some (lastLine front ++ firstLine back) := by
  induction front with
  | nil => exact head?_splitAt back
  | cons char rest inductionHypothesis =>
      by_cases isBreak : char = '\n'
      · rw [isBreak, List.cons_append, splitAt_cons_self, List.count_cons_self,
          List.getElem?_cons_succ, inductionHypothesis, lastLine_break]
      · obtain ⟨first, others, cut, cutWhole⟩ := exists_splitAt_cons isBreak (rest ++ back)
        rw [cut] at inductionHypothesis
        rw [List.cons_append, cutWhole, List.count_cons_of_ne isBreak]
        by_cases broken : '\n' ∈ rest
        · obtain ⟨count, isCount⟩ :=
            Nat.exists_eq_add_one_of_ne_zero (List.count_pos_iff.mpr broken).ne'
          rw [isCount, List.getElem?_cons_succ] at inductionHypothesis
          rw [isCount, List.getElem?_cons_succ, inductionHypothesis, lastLine_cons_of_mem broken]
        · have single : lastLine (char :: rest) = char :: rest :=
            lastLine_of_not_mem (by simp [Ne.symm isBreak, broken])
          rw [List.count_eq_zero.mpr broken, lastLine_of_not_mem broken] at inductionHypothesis
          have same : first = rest ++ firstLine back := Option.some.inj inductionHypothesis
          rw [List.count_eq_zero.mpr broken, single, same]
          rfl

/-! ## Addresses -/

namespace Position

/-- The byte offset that one reaches by walking over the lines in front of a position and then over
as many characters of its line as the column tells; nothing if the text has no such place. -/
def offset? (position : Position) (text : List Char) : Option Nat :=
  (position.textFrom? text).map fun rest => byteLength text - byteLength rest

/-- Whether a position is that of a line of a text, and of a place in or at the end of it. -/
structure IsPlaceOf (position : Position) (text : List Char) : Prop where
  one_le_line : 1 ≤ position.line
  line_le : position.line ≤ (splitAt '\n' text).length
  column_le : ∃ line, (splitAt '\n' text)[position.line - 1]? = some line ∧
    position.column ≤ line.length

/-- The order of places: by their lines, and by their columns on one line. -/
def NotAfter (first second : Position) : Prop :=
  first.line < second.line ∨ (first.line = second.line ∧ first.column ≤ second.column)

theorem behind_isPlaceOf (read rest : List Char) : (behind read).IsPlaceOf (read ++ rest) where
  one_le_line := Nat.le_add_left 1 _
  line_le := by
    rw [length_splitAt, List.count_append]
    exact Nat.succ_le_succ (Nat.le_add_right _ _)
  column_le := by
    refine ⟨lastLine read ++ firstLine rest, getElem?_splitAt read rest, ?_⟩
    rw [List.length_append]
    exact Nat.le_add_right _ _

theorem behind_before_isPlaceOf (text : List Char) (offset : Nat) :
    (behind (before text offset)).IsPlaceOf text := by
  have isPlace := behind_isPlaceOf (before text offset) (after text offset)
  rwa [before_append_after] at isPlace

theorem offset?_behind_before (text : List Char) (offset : Nat) :
    (behind (before text offset)).offset? text = some (floorBoundary text offset) := by
  have found := textFrom?_behind (before text offset) (after text offset)
  have length := byteLength_append (before text offset) (after text offset)
  rw [before_append_after] at found length
  rw [offset?, found, Option.map_some, ← byteLength_before, length, Nat.add_sub_cancel]

/-- Different boundaries have different positions. -/
theorem behind_before_inj {text : List Char} {left right : Nat} (isLeft : IsBoundary text left)
    (isRight : IsBoundary text right) :
    behind (before text left) = behind (before text right) ↔ left = right := by
  constructor
  · intro same
    have sameOffset := congrArg (offset? · text) same
    simp only [offset?_behind_before, floorBoundary_eq_self isLeft, floorBoundary_eq_self isRight,
      Option.some.injEq] at sameOffset
    exact sameOffset
  · intro same
    rw [same]

theorem behind_notAfter {front read : List Char} (begins : front <+: read) :
    (behind front).NotAfter (behind read) := by
  obtain ⟨more, rfl⟩ := begins
  simp only [NotAfter, behind, List.count_append]
  by_cases broken : '\n' ∈ more
  · have positive : 0 < more.count '\n' := List.count_pos_iff.mpr broken
    exact Or.inl (by omega)
  · refine Or.inr ⟨by rw [List.count_eq_zero.mpr broken, Nat.add_zero], ?_⟩
    rw [lastLine_append_of_not_mem broken, List.length_append]
    exact Nat.le_add_right _ _

theorem behind_before_mono (text : List Char) {left right : Nat} (ordered : left ≤ right) :
    (behind (before text left)).NotAfter (behind (before text right)) := by
  refine behind_notAfter (prefix_before (before_prefix_text text left) ?_)
  rw [byteLength_before]
  exact (floorBoundary_le text left).trans ordered

end Position

/-! ## Positions of 32 bits -/

theorem byteLength_lineFeeds (count : Nat) : byteLength (List.replicate count '\n') = count := by
  induction count with
  | zero => rfl
  | succ count inductionHypothesis =>
      rw [List.replicate_succ, byteLength_cons, inductionHypothesis]
      exact Nat.add_comm 1 count

theorem before_of_byteLength_le {text : List Char} {offset : Nat}
    (reached : byteLength text ≤ offset) : before text offset = text :=
  (before_prefix_text text offset).eq_of_length_le
    (prefix_before (List.prefix_refl text) reached).length_le

theorem length_lastLine_le (text : List Char) : (lastLine text).length ≤ text.length := by
  have isSublist := List.takeWhile_sublist (· != '\n') (l := text.reverse)
  rw [lastLine, List.length_reverse]
  exact isSublist.length_le.trans (Nat.le_of_eq List.length_reverse)

/-- What is read has as many line feeds as the whole text has bytes only if it is the whole text,
and that has nothing else. -/
theorem count_before_eq_byteLength_iff {text : List Char} {offset : Nat} :
    (before text offset).count '\n' = byteLength text ↔
      text = List.replicate (byteLength text) '\n' ∧ byteLength text ≤ offset := by
  have whole := before_append_after text offset
  have breaks := List.count_le_length (a := '\n') (l := before text offset)
  have readLength := length_le_byteLength (before text offset)
  have readBytes := byteLength_before text offset
  have readWithin := floorBoundary_le text offset
  have lengths := byteLength_append (before text offset) (after text offset)
  rw [whole] at lengths
  constructor
  · intro full
    have nothingAfter : after text offset = [] := by
      by_contra something
      have positive := byteLength_pos_iff.mpr (List.length_pos_iff.mpr something)
      omega
    rw [nothingAfter, List.append_nil] at whole
    rw [whole] at full breaks readLength readBytes
    refine ⟨List.eq_replicate_iff.mpr ⟨by omega, ?_⟩, by omega⟩
    intro char member
    exact (List.count_eq_length.mp (by omega) char member).symm
  · rintro ⟨onlyBreaks, reached⟩
    rw [before_of_byteLength_le reached, onlyBreaks, List.count_replicate_self,
      byteLength_lineFeeds]

namespace Position

section Words

variable {text : List Char} {offset : Nat} (short : byteLength text < Word.count32)

include short

/-- A text shorter than 2^32 bytes has neither too many columns nor too many line feeds to count. -/
theorem ofOffset_of_short : ofOffset text offset =
    (Word.nextLine ((before text offset).count '\n')).map
      fun line => ⟨line, (lastLine (before text offset)).length⟩ := by
  have reached := byteLength_le_of_prefix (before_prefix_text text offset)
  have readLength := length_le_byteLength (before text offset)
  have breaks := List.count_le_length (a := '\n') (l := before text offset)
  have columns := length_lastLine_le (before text offset)
  have lineFits : (before text offset).count '\n' < Word.count32 := by omega
  have columnFits : (lastLine (before text offset)).length < Word.count32 := by omega
  simp only [ofOffset, Nat.mod_eq_of_lt lineFits, Nat.mod_eq_of_lt columnFits]
  rfl

theorem ofOffset_eq_ok_iff {position : Position} : ofOffset text offset = .ok position ↔
    (before text offset).count '\n' + 1 < Word.count32 ∧
      position = behind (before text offset) := by
  rw [ofOffset_of_short short]
  cases next : Word.nextLine ((before text offset).count '\n') with
  | error stop =>
      have full := Word.nextLine_eq_error_iff.mp next
      simp [Except.map, Nat.not_lt.mpr full]
  | ok line =>
      obtain ⟨fits, rfl⟩ := Word.nextLine_eq_ok_iff.mp next
      rw [Except.map, Except.ok.injEq, and_iff_right fits, eq_comm]
      rfl

/-- Only the line behind 2^32 - 1 line feeds has no number. -/
theorem ofOffset_eq_error_iff {stop : Overflow} : ofOffset text offset = .error stop ↔
    text = List.replicate (Word.count32 - 1) '\n' ∧ Word.count32 - 1 ≤ offset := by
  have positive : 0 < Word.count32 := by decide
  have reached := byteLength_le_of_prefix (before_prefix_text text offset)
  have readLength := length_le_byteLength (before text offset)
  have breaks := List.count_le_length (a := '\n') (l := before text offset)
  have noLine : ofOffset text offset = .error stop ↔
      Word.count32 ≤ (before text offset).count '\n' + 1 := by
    rw [ofOffset_of_short short, ← @Word.nextLine_eq_error_iff _ stop]
    cases Word.nextLine ((before text offset).count '\n') <;> simp [Except.map]
  rw [noLine]
  constructor
  · intro full
    have most : byteLength text = Word.count32 - 1 := by omega
    rw [← most]
    exact count_before_eq_byteLength_iff.mp (by omega)
  · rintro ⟨onlyBreaks, past⟩
    have most : byteLength text = Word.count32 - 1 := by
      rw [onlyBreaks, byteLength_lineFeeds]
    rw [← most] at onlyBreaks past
    have full := count_before_eq_byteLength_iff.mpr ⟨onlyBreaks, past⟩
    omega

theorem column_behind_before_lt : (behind (before text offset)).column < Word.count32 := by
  have reached := byteLength_le_of_prefix (before_prefix_text text offset)
  have readLength := length_le_byteLength (before text offset)
  have columns := length_lastLine_le (before text offset)
  simp only [behind]
  omega

theorem ofOffset_of_ne_lineFeeds (other : text ≠ List.replicate (Word.count32 - 1) '\n') :
    ofOffset text offset = .ok (behind (before text offset)) := by
  cases located : ofOffset text offset with
  | error stop => exact absurd ((ofOffset_eq_error_iff short).mp located).1 other
  | ok position =>
      obtain ⟨-, rfl⟩ := (ofOffset_eq_ok_iff short).mp located
      rfl

/-- Different boundaries have different positions, and at most one has none. -/
theorem ofOffset_inj {left right : Nat} (isLeft : IsBoundary text left)
    (isRight : IsBoundary text right) :
    ofOffset text left = ofOffset text right ↔ left = right := by
  constructor
  · intro same
    cases atLeft : ofOffset text left with
    | ok position =>
        obtain ⟨-, rfl⟩ := (ofOffset_eq_ok_iff short).mp atLeft
        obtain ⟨-, equal⟩ := (ofOffset_eq_ok_iff short).mp (same.symm.trans atLeft)
        exact (behind_before_inj isLeft isRight).mp equal
    | error stop =>
        obtain ⟨onlyBreaks, pastLeft⟩ := (ofOffset_eq_error_iff short).mp atLeft
        obtain ⟨-, pastRight⟩ := (ofOffset_eq_error_iff short).mp (same.symm.trans atLeft)
        have length := byteLength_lineFeeds (Word.count32 - 1)
        rw [← onlyBreaks] at length
        have leftInText := isLeft.le_byteLength
        have rightInText := isRight.le_byteLength
        omega
  · intro same
    rw [same]

end Words

end Position

end EditionGuard.Text
