import Mathlib.Algebra.Ring.Parity
import Mathlib.Data.List.Induction

/-!
# Backslashes before a character

A reader that takes each backslash together with the character after it takes a character
alone if and only if an even number of backslashes stands right before it.
-/

namespace EditionGuard.Text

/-- The number of backslashes in a row at the end of a text. -/
def finalBackslashes (text : List Char) : Nat :=
  (text.reverse.takeWhile (· == '\\')).length

@[simp]
theorem finalBackslashes_nil : finalBackslashes [] = 0 := rfl

theorem finalBackslashes_concat (text : List Char) (char : Char) :
    finalBackslashes (text ++ [char]) =
      if char = '\\' then finalBackslashes text + 1 else 0 := by
  by_cases backslash : char = '\\' <;> simp [finalBackslashes, backslash]

theorem finalBackslashes_eq_zero_iff (text : List Char) :
    finalBackslashes text = 0 ↔ text.getLast? ≠ some '\\' := by
  cases text using List.reverseRecOn with
  | nil => simp
  | append_singleton front char =>
      rw [finalBackslashes_concat, List.getLast?_concat]
      by_cases backslash : char = '\\' <;> simp [backslash]

/-- A backslash that is taken alone takes the next character with it. -/
def escapesNext (escaped : Bool) (char : Char) : Bool := !escaped && char == '\\'

/-- Whether a reader behind a text has taken a backslash and not yet what it escapes. -/
def endsInEscape (text : List Char) : Bool := text.foldl escapesNext false

theorem endsInEscape_concat (text : List Char) (char : Char) :
    endsInEscape (text ++ [char]) = escapesNext (endsInEscape text) char := by
  simp [endsInEscape]

theorem endsInEscape_eq_true_iff (text : List Char) :
    endsInEscape text = true ↔ Odd (finalBackslashes text) := by
  induction text using List.reverseRecOn with
  | nil => simp [endsInEscape]
  | append_singleton front char inductionHypothesis =>
      rw [endsInEscape_concat, finalBackslashes_concat, escapesNext]
      by_cases backslash : char = '\\'
      · rw [if_pos backslash, Nat.odd_add_one, ← inductionHypothesis]
        simp [backslash]
      · simp [backslash]

theorem endsInEscape_eq_false_iff (text : List Char) :
    endsInEscape text = false ↔ Even (finalBackslashes text) := by
  rw [← Nat.not_odd_iff_even, ← endsInEscape_eq_true_iff, Bool.not_eq_true]

end EditionGuard.Text
