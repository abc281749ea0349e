import Mathlib.Data.List.Basic

/-!
# Text measured in UTF-16

Characters beyond U+FFFF take two units of UTF-16, all others one.  So the length in units exceeds
the number of characters by the number of those beyond.
-/

namespace EditionGuard.Text

/-- Whether a character lies beyond those that one unit of UTF-16 can hold. -/
def isSupplementary (char : Char) : Bool := 0xFFFF < char.toNat

def utf16Length : List Char → Nat
  | [] => 0
  | char :: rest => (if isSupplementary char then 2 else 1) + utf16Length rest

theorem utf16Length_eq_add_countP (text : List Char) :
    utf16Length text = text.length + text.countP isSupplementary := by
  induction text with
  | nil => rfl
  | cons char rest inductionHypothesis =>
      rw [utf16Length, inductionHypothesis, List.length_cons, List.countP_cons]
      split <;> omega

theorem utf16Length_eq_length_iff {text : List Char} :
    utf16Length text = text.length ↔ ∀ char ∈ text, char.toNat ≤ 0xFFFF := by
  have noneBeyond : utf16Length text = text.length ↔ text.countP isSupplementary = 0 := by
    have total := utf16Length_eq_add_countP text
    omega
  rw [noneBeyond, List.countP_eq_zero]
  simp only [isSupplementary, decide_eq_true_eq, Nat.not_lt]

end EditionGuard.Text
