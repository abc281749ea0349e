import EditionGuard.Gate.Verdict
import EditionGuard.Proofs.Script.Blank
import EditionGuard.Proofs.Text.Boundary

/-!
# Places of failures

A failure stands at a boundary of the text that was checked, and its position is that of this
boundary.  Positions are as good as offsets: each boundary of a text has a position of its own,
in the same order, and walking to the position leads to the boundary.  The one text that has more
lines than 32 bits can count has nothing that fails.
-/

namespace EditionGuard

open Text (Position)

namespace Gate

variable {code : List Char} {target : Edition} {goal : Script.Goal} {failure : Failure}

theorem exists_atOffset_of_check (failed : check code target goal = some failure) :
    ∃ offset message, failure = .atOffset code offset message := by
  rw [check] at failed
  cases read : Script.read goal code with
  | error diagnostic =>
      rw [read, failureOf] at failed
      exact ⟨_, _, (Option.some.inj failed).symm⟩
  | ok tree =>
      rw [read, failureOf] at failed
      obtain ⟨violation, _, shown⟩ := Option.map_eq_some_iff.mp failed
      exact ⟨_, _, shown.symm⟩

/-- A failure stands at a boundary of the code, and its position is behind what comes before. -/
theorem exists_split_of_check (failed : check code target goal = some failure) :
    ∃ read rejected, code = read ++ rejected ∧
      Text.dropBytes code failure.byteOffset = some rejected ∧
      failure.position = .behind read := by
  obtain ⟨offset, message, rfl⟩ := exists_atOffset_of_check failed
  exact ⟨_, _, (Text.before_append_after code (Text.floorBoundary code offset)).symm,
    Text.dropBytes_floorBoundary code offset, rfl⟩

theorem exists_boundary_of_check (failed : check code target goal = some failure) :
    Text.IsBoundary code failure.byteOffset ∧
      failure.position = .behind (Text.before code failure.byteOffset) := by
  obtain ⟨offset, message, rfl⟩ := exists_atOffset_of_check failed
  exact ⟨Text.isBoundary_floorBoundary code offset, rfl⟩

theorem check_spaces (target : Edition) (goal : Script.Goal)
    (spaces : ∀ char ∈ code, Script.IsSpace char) : check code target goal = none := by
  rw [check, Script.read_spaces goal spaces, failureOf, Option.map_eq_none_iff, firstViolation]
  split
  · rfl
  · rfl

theorem not_lineFeeds_of_check (failed : check code target goal = some failure) (count : Nat) :
    code ≠ List.replicate count '\n' := by
  rintro rfl
  have passes : check (List.replicate count '\n') target goal = none := by
    apply check_spaces
    intro char member
    rw [List.eq_of_mem_replicate member]
    exact Or.inr rfl
  rw [passes] at failed
  cases failed

/-- Every offset of a text shorter than 2^32 bytes counts as the greatest boundary that it reaches.
It has a position of two numbers of 32 bits, but for the end of a text of 2^32 - 1 line feeds.  The
position is a place of the text from which walking leads back to the boundary, and the positions of
different boundaries differ and have the same order.  Every failure stands at a boundary, has the
position of this boundary, and the position leads there. -/
theorem positions_address (text : List Char) (short : Text.byteLength text < Word.count32) :
    (∀ offset,
      IsGreatest
        {boundary | Text.IsBoundary text boundary ∧ boundary ≤ min offset (Text.byteLength text)}
        (Text.floorBoundary text offset) ∧
      (Position.ofOffset text offset = .error .line ↔
        text = List.replicate (Word.count32 - 1) '\n' ∧ Word.count32 - 1 ≤ offset) ∧
      ∀ position, Position.ofOffset text offset = .ok position →
        position.IsPlaceOf text ∧
        position.offset? text = some (Text.floorBoundary text offset) ∧
        position.line < Word.count32 ∧ position.column < Word.count32) ∧
    (∀ left right, Text.IsBoundary text left → Text.IsBoundary text right →
      (Position.ofOffset text left = Position.ofOffset text right ↔ left = right)) ∧
    (∀ left right leftPosition rightPosition, left ≤ right →
      Position.ofOffset text left = .ok leftPosition →
      Position.ofOffset text right = .ok rightPosition →
        leftPosition.NotAfter rightPosition) ∧
    ∀ target goal failure, check text target goal = some failure →
      Text.IsBoundary text failure.byteOffset ∧
        Position.ofOffset text failure.byteOffset = .ok failure.position ∧
        failure.position.offset? text = some failure.byteOffset := by
  refine ⟨?_, ?_, ?_, ?_⟩
  · intro offset
    refine ⟨Text.isGreatest_floorBoundary text offset, Position.ofOffset_eq_error_iff short, ?_⟩
    intro position located
    obtain ⟨fits, rfl⟩ := (Position.ofOffset_eq_ok_iff short).mp located
    exact ⟨Position.behind_before_isPlaceOf text offset,
      Position.offset?_behind_before text offset, fits, Position.column_behind_before_lt short⟩
  · intro left right isLeft isRight
    exact Position.ofOffset_inj short isLeft isRight
  · intro left right leftPosition rightPosition ordered atLeft atRight
    obtain ⟨-, rfl⟩ := (Position.ofOffset_eq_ok_iff short).mp atLeft
    obtain ⟨-, rfl⟩ := (Position.ofOffset_eq_ok_iff short).mp atRight
    exact Position.behind_before_mono text ordered
  · intro target goal failure failed
    obtain ⟨isBoundary, isPosition⟩ := exists_boundary_of_check failed
    have located : Position.ofOffset text failure.byteOffset = .ok failure.position := by
      rw [isPosition]
      apply Position.ofOffset_of_ne_lineFeeds short
      exact not_lineFeeds_of_check failed _
    refine ⟨isBoundary, located, ?_⟩
    rw [isPosition, Position.offset?_behind_before, Text.floorBoundary_eq_self isBoundary]

/-- The end of a text of 2^32 - 1 line feeds, which is shorter than 2^32 bytes, stands on a line
without a number. -/
theorem lineFeeds_without_position :
    Text.byteLength (List.replicate (Word.count32 - 1) '\n') < Word.count32 ∧
      Position.ofOffset (List.replicate (Word.count32 - 1) '\n') (Word.count32 - 1) =
        .error .line := by
  have length := Text.byteLength_lineFeeds (Word.count32 - 1)
  have short : Text.byteLength (List.replicate (Word.count32 - 1) '\n') < Word.count32 := by
    rw [length]
    decide
  exact ⟨short, (Position.ofOffset_eq_error_iff short).mpr ⟨rfl, Nat.le_refl _⟩⟩

/-- A text whose second line fails, behind a character of two bytes. -/
def accentedText : List Char := "'é'\nlet a".toList

def accentedFailure : Failure :=
  ⟨"Unexpected token: `let` declaration requires es2015", 5, ⟨2, 0⟩⟩

theorem positions_address_accented :
    check accentedText .es5 .unambiguous = some accentedFailure ∧
      Text.byteLength accentedText < Word.count32 ∧
      Text.IsBoundary accentedText 1 ∧ Text.IsBoundary accentedText 5 ∧
      ¬ Text.IsBoundary accentedText 2 ∧
      Position.ofOffset accentedText 1 ≠ Position.ofOffset accentedText 5 ∧
      Position.ofOffset accentedText 2 = .ok ⟨1, 1⟩ ∧
      Position.offset? ⟨1, 1⟩ accentedText = some 1 ∧
      Position.ofOffset accentedText 5 = .ok accentedFailure.position ∧
      Position.NotAfter ⟨1, 1⟩ accentedFailure.position ∧
      accentedFailure.position.offset? accentedText = some 5 := by
  have short : Text.byteLength accentedText < Word.count32 := by decide
  obtain ⟨each, injective, ordered, failures⟩ := positions_address accentedText short
  have failed : check accentedText .es5 .unambiguous = some accentedFailure := by decide +kernel
  have isFirst : Text.IsBoundary accentedText 1 := ⟨['\''], by decide, rfl⟩
  obtain ⟨isSecond, atSecond, leads⟩ := failures _ _ _ failed
  obtain ⟨greatest, -, places⟩ := each 2
  have atFirst : Position.ofOffset accentedText 2 = .ok ⟨1, 1⟩ := by decide
  refine ⟨failed, short, isFirst, isSecond, ?_, ?_, atFirst, (places _ atFirst).2.1, atSecond,
    ordered 2 5 _ _ (by decide) atFirst atSecond, leads⟩
  · intro isBoundary
    have above := greatest.2 ⟨isBoundary, by decide⟩
    revert above
    decide
  · intro same
    have equal := (injective 1 5 isFirst isSecond).mp same
    cases equal

end Gate

end EditionGuard
