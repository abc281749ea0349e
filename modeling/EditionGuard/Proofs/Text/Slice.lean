import EditionGuard.Proofs.Text.Position
import EditionGuard.Proofs.Text.Search

/-!
# Slices, and the first place of a search

A slice between two byte offsets exists if and only if the text splits there, and is what stands
between the splits.  A search by bytes finds the first place where the wanted characters stand.
-/

namespace EditionGuard.Text

theorem byteLength_pos_iff {text : List Char} : 0 < byteLength text ↔ 0 < text.length := by
  cases text with
  | nil => simp
  | cons char rest =>
      have positive : 0 < char.utf8Size := char.utf8Size_pos
      simp only [byteLength_cons, List.length_cons]
      omega

theorem byteLength_lt_iff_of_prefix {left right text : List Char} (leftBegins : left <+: text)
    (rightBegins : right <+: text) : byteLength left < byteLength right ↔
      left.length < right.length := by
  rcases List.prefix_or_prefix_of_prefix leftBegins rightBegins with
    ⟨more, rfl⟩ | ⟨more, rfl⟩
  · have positive := @byteLength_pos_iff more
    rw [byteLength_append, List.length_append]
    omega
  · rw [byteLength_append, List.length_append]
    omega

theorem dropBytes_eq_some_iff {text rest : List Char} {count : Nat} :
    dropBytes text count = some rest ↔ ∃ front, text = front ++ rest ∧ byteLength front = count := by
  induction text generalizing count with
  | nil =>
      cases count with
      | zero => simp [dropBytes, eq_comm]
      | succ count =>
          rw [dropBytes]
          refine iff_of_false (Option.some_ne_none _).symm ?_
          rintro ⟨front, isEmpty, length⟩
          obtain ⟨rfl, _⟩ := List.append_eq_nil_iff.mp isEmpty.symm
          cases length
  | cons char others inductionHypothesis =>
      have positive : 0 < char.utf8Size := char.utf8Size_pos
      constructor
      · intro dropped
        cases count with
        | zero => exact ⟨[], by simpa [dropBytes] using dropped⟩
        | succ count =>
            rw [dropBytes] at dropped
            split at dropped
            · next within =>
                obtain ⟨front, rfl, length⟩ := inductionHypothesis.mp dropped
                refine ⟨char :: front, rfl, ?_⟩
                rw [byteLength_cons, length]
                omega
            · cases dropped
      · rintro ⟨front, split, length⟩
        cases front with
        | nil =>
            obtain rfl : rest = char :: others := split.symm
            obtain rfl : count = 0 := length.symm
            rw [dropBytes]
        | cons first more =>
            obtain ⟨rfl, rest⟩ := List.cons.inj split
            rw [byteLength_cons] at length
            have within : char.utf8Size ≤ count := by omega
            rw [dropBytes_cons_of_le within, inductionHypothesis]
            exact ⟨more, rest, by omega⟩

theorem takeBytes_cons_of_le {char : Char} {count : Nat} (within : char.utf8Size ≤ count)
    (rest : List Char) :
    takeBytes (char :: rest) count =
      (takeBytes rest (count - char.utf8Size)).map (char :: ·) := by
  have positive : 0 < char.utf8Size := char.utf8Size_pos
  cases count with
  | zero => omega
  | succ count => rw [takeBytes, if_pos within]

theorem takeBytes_eq_some_iff {text taken : List Char} {count : Nat} :
    takeBytes text count = some taken ↔ taken <+: text ∧ byteLength taken = count := by
  induction text generalizing count taken with
  | nil =>
      cases count with
      | zero => cases taken <;> simp [takeBytes]
      | succ count =>
          rw [takeBytes]
          refine iff_of_false (Option.some_ne_none _).symm ?_
          rintro ⟨begins, length⟩
          obtain rfl := List.prefix_nil.mp begins
          cases length
  | cons char others inductionHypothesis =>
      have positive : 0 < char.utf8Size := char.utf8Size_pos
      constructor
      · intro isTaken
        cases count with
        | zero =>
            obtain rfl : [] = taken := by simpa [takeBytes] using isTaken
            exact ⟨List.nil_prefix, rfl⟩
        | succ count =>
            rw [takeBytes] at isTaken
            split at isTaken
            · next within =>
                obtain ⟨more, takenRest, rfl⟩ := Option.map_eq_some_iff.mp isTaken
                obtain ⟨begins, length⟩ := inductionHypothesis.mp takenRest
                refine ⟨List.cons_prefix_cons.mpr ⟨rfl, begins⟩, ?_⟩
                rw [byteLength_cons, length]
                omega
            · cases isTaken
      · rintro ⟨begins, length⟩
        cases taken with
        | nil =>
            obtain rfl : count = 0 := length.symm
            rw [takeBytes]
        | cons first more =>
            obtain ⟨rfl, moreBegins⟩ := List.cons_prefix_cons.mp begins
            rw [byteLength_cons] at length
            have within : first.utf8Size ≤ count := by omega
            have takenRest : takeBytes others (count - first.utf8Size) = some more :=
              inductionHypothesis.mpr ⟨moreBegins, by omega⟩
            rw [takeBytes_cons_of_le within, takenRest, Option.map_some]

theorem slice_eq_some_iff {text found : List Char} {start stop : Nat} :
    slice text start stop = some found ↔
      ∃ front back, text = front ++ found ++ back ∧ byteLength front = start ∧
        start + byteLength found = stop := by
  constructor
  · intro isSlice
    rw [slice] at isSlice
    split at isSlice
    · next inOrder =>
        obtain ⟨rest, dropped, taken⟩ := Option.bind_eq_some_iff.mp isSlice
        obtain ⟨front, rfl, frontLength⟩ := dropBytes_eq_some_iff.mp dropped
        obtain ⟨⟨back, rfl⟩, foundLength⟩ := takeBytes_eq_some_iff.mp taken
        exact ⟨front, back, (List.append_assoc _ _ _).symm, frontLength, by omega⟩
    · cases isSlice
  · rintro ⟨front, back, rfl, frontLength, ends⟩
    have dropped : dropBytes (front ++ found ++ back) start = some (found ++ back) :=
      dropBytes_eq_some_iff.mpr ⟨front, List.append_assoc _ _ _, frontLength⟩
    have taken : takeBytes (found ++ back) (stop - start) = some found :=
      takeBytes_eq_some_iff.mpr ⟨List.prefix_append _ _, by omega⟩
    rw [slice, if_pos (by omega), dropped, Option.bind_some, taken]

/-- Slices that meet at an offset join to one. -/
theorem slice_append {text left right : List Char} {start middle stop : Nat}
    (isLeft : slice text start middle = some left)
    (isRight : slice text middle stop = some right) :
    slice text start stop = some (left ++ right) := by
  obtain ⟨front, behindLeft, split, frontLength, leftEnds⟩ := slice_eq_some_iff.mp isLeft
  obtain ⟨beforeRight, back, splitRight, beforeLength, rightEnds⟩ :=
    slice_eq_some_iff.mp isRight
  -- Both slices split the text at `middle`, so their rests agree.
  have cutLeft : dropBytes text middle = some behindLeft :=
    dropBytes_eq_some_iff.mpr ⟨front ++ left, split, by rw [byteLength_append]; omega⟩
  have cutRight : dropBytes text middle = some (right ++ back) :=
    dropBytes_eq_some_iff.mpr ⟨beforeRight, by rw [splitRight, List.append_assoc], beforeLength⟩
  have same : behindLeft = right ++ back := Option.some.inj (cutLeft.symm.trans cutRight)
  refine slice_eq_some_iff.mpr ⟨front, back, ?_, frontLength, ?_⟩
  · rw [split, same]
    simp
  · rw [byteLength_append]
    omega

theorem exists_of_findBytes {wanted text : List Char} {offset : Nat}
    (found : findBytes wanted text = some offset) :
    ∃ front back, text = front ++ wanted ++ back ∧ byteLength front = offset ∧
      ∀ place < front.length, ¬ wanted <+: text.drop place := by
  induction text generalizing offset with
  | nil =>
      rw [findBytes] at found
      split at found
      · next empty =>
          obtain rfl : wanted = [] := List.isEmpty_iff.mp empty
          obtain rfl := Option.some.inj found
          exact ⟨[], [], rfl, rfl, fun place before => absurd before (Nat.not_lt_zero place)⟩
      · cases found
  | cons char rest inductionHypothesis =>
      rw [findBytes] at found
      split at found
      · next begins =>
          obtain ⟨back, split⟩ := Iff.mp startsWith_iff_prefix begins
          obtain rfl := Option.some.inj found
          exact ⟨[], back, split.symm, rfl, fun place before => absurd before (Nat.not_lt_zero place)⟩
      · next notBegins =>
          obtain ⟨further, foundFurther, rfl⟩ := Option.map_eq_some_iff.mp found
          obtain ⟨front, back, rfl, rfl, first⟩ := inductionHypothesis foundFurther
          refine ⟨char :: front, back, rfl, rfl, ?_⟩
          intro place before stands
          cases place with
          | zero => exact notBegins (Iff.mpr startsWith_iff_prefix stands)
          | succ place => exact first place (Nat.lt_of_succ_lt_succ before) stands

/-- In a text of two parts a search finds a place in the second part if and only if the wanted
characters do not begin in the first. -/
theorem byteLength_le_findBytes_iff {wanted left right : List Char} {offset : Nat}
    (found : findBytes wanted (left ++ right) = some offset) :
    byteLength left ≤ offset ↔
      ∀ place < left.length, ¬ wanted <+: (left ++ right).drop place := by
  obtain ⟨front, back, split, rfl, first⟩ := exists_of_findBytes found
  have frontBegins : front <+: left ++ right := by
    rw [split, List.append_assoc]
    exact List.prefix_append front _
  have shorter := byteLength_lt_iff_of_prefix frontBegins (List.prefix_append left right)
  constructor
  · intro reached place inLeft
    exact first place (by omega)
  · intro notInLeft
    by_contra beyond
    refine notInLeft front.length (by omega) ?_
    rw [split, List.append_assoc, List.drop_left]
    exact List.prefix_append wanted back

end EditionGuard.Text
