import EditionGuard.Text.Basic
import Mathlib.Data.List.Basic

/-!
# Finding characters in a text

A search by bytes has a result if and only if the wanted characters stand at some place of
the text, where places count characters.
-/

namespace EditionGuard.Text

theorem startsWith_iff_prefix {wanted text : List Char} :
    startsWith wanted text = true ↔ wanted <+: text := by
  induction wanted generalizing text with
  | nil => simp [startsWith]
  | cons first more inductionHypothesis =>
      cases text with
      | nil => simp [startsWith]
      | cons char rest =>
          rw [startsWith, Bool.and_eq_true, inductionHypothesis, List.cons_prefix_cons,
            beq_iff_eq]

theorem exists_place_cons_iff (right : List Char → List Char → Prop) {char : Char}
    {rest : List Char} :
    (∃ place, right ((char :: rest).take place) ((char :: rest).drop place)) ↔
      right [] (char :: rest) ∨
        ∃ place, right (char :: rest.take place) (rest.drop place) := by
  constructor
  · rintro ⟨_ | place, holds⟩
    · exact .inl holds
    · exact .inr ⟨place, holds⟩
  · rintro (holds | ⟨place, holds⟩)
    · exact ⟨0, holds⟩
    · exact ⟨place + 1, holds⟩

theorem exists_prefix_drop_cons_iff {wanted : List Char} {char : Char} {rest : List Char} :
    (∃ place, wanted <+: (char :: rest).drop place) ↔
      wanted <+: char :: rest ∨ ∃ place, wanted <+: rest.drop place :=
  exists_place_cons_iff fun _ back => wanted <+: back

theorem occurs_iff {wanted text : List Char} :
    occurs wanted text = true ↔ ∃ place, wanted <+: text.drop place := by
  rw [occurs]
  induction text with
  | nil =>
      cases wanted with
      | nil => simp [findBytes]
      | cons first more => simp [findBytes]
  | cons char rest inductionHypothesis =>
      rw [exists_prefix_drop_cons_iff, ← inductionHypothesis, ← startsWith_iff_prefix,
        findBytes]
      by_cases begins : startsWith wanted (char :: rest) = true
      · simp [begins]
      · simp [begins]

theorem findBytes_singleton (wanted : Char) (text : List Char) :
    findBytes [wanted] text =
      if wanted ∈ text then some (byteLength (text.takeWhile (· != wanted))) else none := by
  induction text with
  | nil => rfl
  | cons char rest inductionHypothesis =>
      by_cases found : wanted = char
      · subst found
        simp [findBytes, startsWith]
      · have goesOn : (char :: rest).takeWhile (· != wanted) =
            char :: rest.takeWhile (· != wanted) :=
          List.takeWhile_cons_of_pos (by simpa using Ne.symm found)
        have begins : startsWith [wanted] (char :: rest) = false := by simp [startsWith, found]
        rw [findBytes, begins, inductionHypothesis, goesOn]
        by_cases inRest : wanted ∈ rest
        · simp [inRest]
        · simp [inRest, found]

theorem lt_length_of_prefix_drop {wanted text : List Char} {place : Nat}
    (something : wanted ≠ []) (stands : wanted <+: text.drop place) : place < text.length := by
  by_contra beyond
  rw [List.drop_eq_nil_of_le (Nat.le_of_not_lt beyond), List.prefix_nil] at stands
  exact something stands

end EditionGuard.Text
