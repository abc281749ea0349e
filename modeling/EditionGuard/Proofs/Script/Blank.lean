import EditionGuard.Script.Grammar.Program

/-!
# Blank programs

A text that holds nothing but blanks and line ends is a program without statements.
-/

namespace EditionGuard.Script

/-- Whether a character stands between tokens only. -/
def IsSpace (char : Char) : Prop := isBlank char = true ∨ isLineEnd char = true

theorem IsSpace.ne_slash {char : Char} (isSpace : IsSpace char) : char ≠ '/' := by
  rintro rfl
  revert isSpace
  simp only [IsSpace]
  decide

variable {char : Char} {rest text : List Char} {steps : Nat}

namespace Scan

variable (inScript : Bool)

theorem skipTrivia_cons (isSpace : IsSpace char) (offset : Nat) (ended : Bool) :
    skipTrivia inScript (steps + 1) ⟨char :: rest, offset, [], none⟩ ended =
      skipTrivia inScript steps ⟨rest, offset + char.utf8Size, [], none⟩
        (ended || !isBlank char) := by
  rw [skipTrivia]
  split
  · rename_i empty
    cases empty
  · rename_i _ slashes
    exact absurd (List.cons.inj slashes).1 isSpace.ne_slash
  · rename_i _ opened
    exact absurd (List.cons.inj opened).1 isSpace.ne_slash
  · rename_i _ _ _ _ split
    obtain ⟨rfl, rfl⟩ := List.cons.inj split
    by_cases blank : isBlank char = true
    · rw [if_pos blank, blank, Bool.not_true, Bool.or_false]
      rfl
    · have breaks : isLineEnd char = true := isSpace.resolve_left blank
      rw [if_neg blank, if_pos breaks, Bool.eq_false_iff.mpr blank, Bool.not_false, Bool.or_true]
      rfl

theorem skipTrivia_spaces (spaces : ∀ char ∈ text, IsSpace char) (enough : text.length < steps)
    (offset : Nat) (ended : Bool) :
    ∃ lineEnded, skipTrivia inScript steps ⟨text, offset, [], none⟩ ended =
      (⟨[], offset + Text.byteLength text, [], none⟩, lineEnded) := by
  induction text generalizing steps offset ended with
  | nil =>
      obtain ⟨fewer, rfl⟩ := Nat.exists_eq_add_one_of_ne_zero (Nat.ne_of_gt enough)
      exact ⟨ended, rfl⟩
  | cons char rest inductionHypothesis =>
      obtain ⟨fewer, rfl⟩ := Nat.exists_eq_add_one_of_ne_zero (Nat.ne_zero_of_lt enough)
      rw [skipTrivia_cons inScript (spaces char (.head rest)), Text.byteLength_cons, ← Nat.add_assoc]
      exact inductionHypothesis (fun other member => spaces other (.tail char member))
        (Nat.lt_of_succ_lt_succ enough) _ _

end Scan

namespace Grammar

def stateAtEnd (offset : Nat) (onNewLine : Bool) : State where
  before := ⟨[], offset, [], none⟩
  token := ⟨.endOfText, offset, offset, [], onNewLine, false, false⟩
  after := ⟨[], offset, [], none⟩
  previousStop := 0
  errors := []
  scriptErrors := []
  openDefaults := []
  trailingCommas := []
  plainParentheses := []
  sawImportMeta := false
  sawAwaitName := false

theorem initialState_spaces (goal : Goal) (spaces : ∀ char ∈ text, IsSpace char) :
    ∃ ended, initialState goal text = stateAtEnd (Text.byteLength text) ended := by
  obtain ⟨ended, skipped⟩ := Scan.skipTrivia_spaces (goal == .script) spaces
    (Nat.lt_add_one text.length) 0 true
  have between : Scan.between ⟨[], Text.byteLength text, [], none⟩
      ⟨[], Text.byteLength text, [], none⟩ = [] := by
    rw [Scan.between, Nat.sub_self]
    rfl
  rw [Nat.zero_add] at skipped
  refine ⟨ended, ?_⟩
  simp only [initialState, Scan.token, Scan.ofText, skipped, Scan.tokenHere, between]
  rfl

end Grammar

/-- A text of blanks and line ends has no errors, and its tree has no statements. -/
theorem read_spaces (goal : Goal) (spaces : ∀ char ∈ text, IsSpace char) :
    read goal text = .ok (.mk .program ⟨0, Text.byteLength text⟩ []) := by
  obtain ⟨ended, start⟩ := Grammar.initialState_spaces goal spaces
  have outcome : Grammar.program text (Grammar.rulesOfDepth (Grammar.sufficientDepth text))
      (Grammar.initialSetting goal text) (Grammar.initialState goal text) =
        .done (.mk .program ⟨0, Text.byteLength text⟩ [], [], false)
          (Grammar.stateAtEnd (Text.byteLength text) ended) := by
    rw [start]
    cases goal <;> rfl
  simp only [read, outcome]
  cases goal <;> rfl

end EditionGuard.Script
