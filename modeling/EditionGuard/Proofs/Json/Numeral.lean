import EditionGuard.Json.Reader
import EditionGuard.Proofs.Text.Cut
import EditionGuard.Proofs.Text.Numeral
import EditionGuard.Proofs.Text.Utf8
import Mathlib.Data.List.TakeDrop

/-!
# Numbers in JSON

A number that is written in decimal digits, without zeros in front, is read back.
-/

namespace EditionGuard.Json

open Text

/-- No zero stands in front of another digit. -/
theorem head?_decimal_ne_zero {number : Nat} (positive : 0 < number) :
    (decimal number).head? ≠ some '0' := by
  induction number using Nat.strongRecOn with
  | _ number inductionHypothesis =>
      by_cases small : number < 10
      · have each : ∀ digit < 10, 0 < digit → (decimal digit).head? ≠ some '0' := by decide
        exact each number small positive
      · have frontPositive : 0 < number / 10 := by omega
        have lastSmall : number % 10 < 10 := Nat.mod_lt _ (by decide)
        have whole : number / 10 * 10 + number % 10 = number := by omega
        have front := inductionHypothesis (number / 10) (by omega) frontPositive
        rw [← whole, ← decimal_concat frontPositive lastSmall]
        cases isFront : decimal (number / 10) with
        | nil => exact absurd isFront decimal_ne_nil
        | cons first rest =>
            rw [isFront] at front
            exact front

theorem span_isDigit {digits : List Char} (allDigits : ∀ char ∈ digits, char.isDigit = true) :
    digits.span Char.isDigit = (digits, []) := by
  rw [List.span_eq_takeWhile_dropWhile, List.takeWhile_eq_self_iff.mpr allDigits,
    List.dropWhile_eq_nil_iff.mpr allDigits]

theorem isDigit_of_decimal_eq_cons {number : Nat} {first : Char} {rest : List Char}
    (isCons : decimal number = first :: rest) : first.isDigit = true := by
  apply isDigit_of_mem_decimal
  rw [isCons]
  exact List.mem_cons_self

theorem readNumber?_decimal (number : Nat) :
    readNumber? (decimal number) = some (⟨false, number, 0, true⟩, []) := by
  rcases Nat.eq_zero_or_pos number with rfl | positive
  · rfl
  · have noZero := head?_decimal_ne_zero positive
    have allDigits : ∀ char ∈ decimal number, char.isDigit = true := fun char member =>
      isDigit_of_mem_decimal member
    have value : digitsValue (decimal number) = number := by
      rw [digitsValue, decimal?_decimal, Option.getD_some]
    have spanned := span_isDigit allDigits
    cases isCons : decimal number with
    | nil => exact absurd isCons decimal_ne_nil
    | cons first rest =>
        rw [isCons] at noZero allDigits value spanned
        unfold readNumber?
        split
        next negative text isSigned =>
          have unsigned : (false, first :: rest) = (negative, text) := by
            rw [← isSigned]
            split
            · next minus =>
                exact absurd (isDigit_of_decimal_eq_cons (isCons.trans minus)) (by decide)
            · rfl
          cases unsigned
          split
          next whole behind isCut =>
            have uncut : (first :: rest, []) = (whole, behind) := by
              rw [← isCut]
              split
              · next zero =>
                  cases zero
                  exact absurd rfl noZero
              · rw [spanned]
            cases uncut
            simp [readFraction?, readExponent?, value]

theorem readValue?_decimal (fuel number : Nat) :
    readValue? (fuel + 1) (decimal number) = some (.number ⟨false, number, 0, true⟩, []) := by
  have read := readNumber?_decimal number
  cases isCons : decimal number with
  | nil => exact absurd isCons decimal_ne_nil
  | cons first rest =>
      have isDigit := isDigit_of_decimal_eq_cons isCons
      have isMark {mark : Char} {others : List Char} (same : first :: rest = mark :: others) :
          mark.isDigit = true := isDigit_of_decimal_eq_cons (isCons.trans same)
      have noBlank : ¬ isBlank first = true := by
        intro blank
        simp only [isBlank, Bool.or_eq_true, beq_iff_eq] at blank
        rcases blank with ((rfl | rfl) | rfl) | rfl <;> exact absurd isDigit (by decide)
      rw [isCons] at read
      rw [readValue?, skipBlanks, List.dropWhile_cons_of_neg noBlank]
      split
      · next same => exact absurd (isMark same) (by decide)
      · next same => exact absurd (isMark same) (by decide)
      · next same => exact absurd (isMark same) (by decide)
      · next same => exact absurd (isMark same) (by decide)
      · next same => exact absurd (isMark same) (by decide)
      · next same => exact absurd (isMark same) (by decide)
      · rw [read]
        rfl

theorem ofText?_decimal (number : Nat) :
    ofText? (decimal number) = some (.number ⟨false, number, 0, true⟩) := by
  have ascii : ∀ char ∈ decimal number, char.toNat < 0x80 := by
    intro char member
    have range := isDigit_iff.mp (isDigit_of_mem_decimal member)
    omega
  simp only [ofText?, read?, Utf8.map_encode_of_ascii ascii, readValue?_decimal]
  rfl

end EditionGuard.Json
