import EditionGuard.Text.Blank
import Mathlib.Data.List.Basic

/-!
# Letters, digits and white space

The letters and digits of ASCII by their code points.  The change of case leaves a text without
letters as it is.
-/

namespace EditionGuard.Text

variable {char : Char}

theorem isDigit_iff : char.isDigit = true ↔ 48 ≤ char.toNat ∧ char.toNat ≤ 57 := by
  change (decide ('0'.val ≤ char.val) && decide (char.val ≤ '9'.val)) = true ↔ _
  rw [Bool.and_eq_true, decide_eq_true_eq, decide_eq_true_eq, UInt32.le_iff_toNat_le,
    UInt32.le_iff_toNat_le]
  exact Iff.rfl

theorem isAlpha_iff : char.isAlpha = true ↔
    (65 ≤ char.toNat ∧ char.toNat ≤ 90) ∨ (97 ≤ char.toNat ∧ char.toNat ≤ 122) := by
  change (decide ('A'.val ≤ char.val ∧ char.val ≤ 'Z'.val) ||
    (decide ('a'.val ≤ char.val) && decide (char.val ≤ 'z'.val))) = true ↔ _
  simp only [Bool.or_eq_true, Bool.and_eq_true, decide_eq_true_eq, UInt32.le_iff_toNat_le]
  exact Iff.rfl

theorem isAlpha_eq_false_of_isDigit (isDigit : char.isDigit = true) : char.isAlpha = false := by
  refine Bool.eq_false_iff.mpr fun letter => ?_
  have digitRange := isDigit_iff.mp isDigit
  have letterRange := isAlpha_iff.mp letter
  omega

theorem isWhiteSpace_eq_false (above : 0x20 < char.toNat) (below : char.toNat < 0x7F) :
    isWhiteSpace char = false := by
  simp only [isWhiteSpace, Bool.or_eq_false_iff, Bool.and_eq_false_iff, decide_eq_false_iff_not,
    beq_eq_false_iff_ne]
  omega

theorem isWhiteSpace_eq_false_of_isDigit (isDigit : char.isDigit = true) :
    isWhiteSpace char = false := by
  have range := isDigit_iff.mp isDigit
  exact isWhiteSpace_eq_false (by omega) (by omega)

theorem isWhiteSpace_eq_false_of_isAlpha (letter : char.isAlpha = true) :
    isWhiteSpace char = false := by
  have range := isAlpha_iff.mp letter
  exact isWhiteSpace_eq_false (by omega) (by omega)

theorem isAlpha_eq_false_of_isWhiteSpace (blank : isWhiteSpace char = true) :
    char.isAlpha = false := by
  refine Bool.eq_false_iff.mpr fun letter => ?_
  have visible := isWhiteSpace_eq_false_of_isAlpha letter
  rw [blank] at visible
  cases visible

theorem toLower_eq_of_isAlpha_eq_false (noLetter : char.isAlpha = false) :
    char.toLower = char := by
  have notUpper := (Bool.or_eq_false_iff.mp noLetter).1
  exact dif_neg (of_decide_eq_false notUpper)

theorem lowerAscii_append (front back : List Char) :
    lowerAscii (front ++ back) = lowerAscii front ++ lowerAscii back :=
  List.map_append

theorem lowerAscii_eq_self {text : List Char}
    (noLetters : ∀ char ∈ text, char.isAlpha = false) : lowerAscii text = text := by
  have same : text.map Char.toLower = text.map id :=
    List.map_congr_left fun char member => toLower_eq_of_isAlpha_eq_false (noLetters char member)
  rw [lowerAscii, same, List.map_id]

end EditionGuard.Text
