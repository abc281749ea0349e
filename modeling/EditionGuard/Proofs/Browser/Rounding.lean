import EditionGuard.Browser.Release
import Mathlib.Data.Nat.Log
import Mathlib.Tactic.Ring

/-!
# Rounding keeps the order

Rounding a quotient to the grid of binary64 is monotone: on a stretch between two powers of two
the grid is even, and each power of two lies on the grids of both its sides.  So the releases of
two decimals are ordered as the decimals are.
-/

namespace EditionGuard.Browser

variable {numerator denominator otherNumerator otherDenominator bound : Nat}

/-- A quotient is rounded above a bound if it lies above the middle behind the bound, or on it
where the bound is odd. -/
theorem lt_roundToEven_iff (positive : 0 < denominator) :
    bound < roundToEven numerator denominator ↔
      (2 * bound + 1) * denominator < 2 * numerator ∨
        ((2 * bound + 1) * denominator = 2 * numerator ∧ bound % 2 = 1) := by
  have division := Nat.div_add_mod numerator denominator
  have remainder := Nat.mod_lt numerator positive
  simp only [roundToEven]
  generalize numerator / denominator = below at *
  generalize numerator % denominator = left at *
  have middle : (2 * bound + 1) * denominator = 2 * (denominator * bound) + denominator := by ring
  rw [middle]
  rcases Nat.lt_trichotomy bound below with smaller | rfl | greater
  · have further : denominator * bound + denominator ≤ denominator * below := by
      rw [← Nat.mul_succ]
      exact Nat.mul_le_mul_left denominator smaller
    refine iff_of_true ?_ (Or.inl (by omega))
    split <;> omega
  · split <;> omega
  · have further : denominator * below + denominator ≤ denominator * bound := by
      rw [← Nat.mul_succ]
      exact Nat.mul_le_mul_left denominator greater
    refine iff_of_false ?_ (by omega)
    split <;> omega

theorem roundToEven_mono (positive : 0 < denominator) (otherPositive : 0 < otherDenominator)
    (le : numerator * otherDenominator ≤ otherNumerator * denominator) :
    roundToEven numerator denominator ≤ roundToEven otherNumerator otherDenominator := by
  by_contra above
  have isAbove := (lt_roundToEven_iff positive).mp (Nat.lt_of_not_le above)
  have notAbove := mt (lt_roundToEven_iff otherPositive).mpr
    (Nat.lt_irrefl (roundToEven otherNumerator otherDenominator))
  generalize roundToEven otherNumerator otherDenominator = bound at isAbove notAbove
  -- The middle behind `bound`, times both denominators, would lie on either side.
  have upper : 2 * (otherNumerator * denominator) ≤
      (2 * bound + 1) * otherDenominator * denominator := by
    rw [← Nat.mul_assoc]
    exact Nat.mul_le_mul_right denominator (by omega)
  have sameMiddle : (2 * bound + 1) * otherDenominator * denominator =
      (2 * bound + 1) * denominator * otherDenominator := by
    ring
  have scaled : 2 * numerator * otherDenominator = 2 * (numerator * otherDenominator) :=
    Nat.mul_assoc 2 numerator otherDenominator
  rcases isAbove with strictly | ⟨onMiddle, isOdd⟩
  · have lower := Nat.mul_lt_mul_of_pos_right strictly otherPositive
    omega
  · have lower : (2 * bound + 1) * denominator * otherDenominator =
        2 * numerator * otherDenominator := congrArg (· * otherDenominator) onMiddle
    have bothEqual : (2 * bound + 1) * otherDenominator * denominator =
        2 * otherNumerator * denominator := by
      have regrouped := Nat.mul_assoc 2 otherNumerator denominator
      omega
    exact notAbove (Or.inr ⟨Nat.eq_of_mul_eq_mul_right positive bothEqual, isOdd⟩)

theorem roundToEven_mul (positive : 0 < denominator) (whole : Nat) :
    roundToEven (whole * denominator) denominator = whole := by
  unfold roundToEven
  rw [Nat.mul_mod_left, Nat.mul_div_cancel whole positive, if_pos (Or.inl positive)]

section Powers

variable {power exponent : Nat}

theorem roundToEven_mul_le (positive : 0 < denominator) (onGrid : power ≤ exponent)
    (le : numerator ≤ 2 ^ exponent * denominator) :
    roundToEven numerator (denominator * 2 ^ power) * 2 ^ power ≤ 2 ^ exponent := by
  have spacing : 0 < denominator * 2 ^ power := Nat.mul_pos positive (Nat.two_pow_pos power)
  have split : 2 ^ exponent = 2 ^ (exponent - power) * 2 ^ power := by
    rw [← Nat.pow_add, Nat.sub_add_cancel onGrid]
  have atMost : roundToEven numerator (denominator * 2 ^ power) ≤ 2 ^ (exponent - power) := by
    conv => rhs; rw [← roundToEven_mul spacing (2 ^ (exponent - power))]
    refine roundToEven_mono spacing spacing (Nat.mul_le_mul_right _ ?_)
    calc
      numerator ≤ 2 ^ exponent * denominator := le
      _ = 2 ^ (exponent - power) * (denominator * 2 ^ power) := by rw [split]; ring
  calc
    _ ≤ 2 ^ (exponent - power) * 2 ^ power := Nat.mul_le_mul_right _ atMost
    _ = 2 ^ exponent := split.symm

theorem le_roundToEven_mul (positive : 0 < denominator) (onGrid : power ≤ exponent)
    (le : 2 ^ exponent * denominator ≤ numerator) :
    2 ^ exponent ≤ roundToEven numerator (denominator * 2 ^ power) * 2 ^ power := by
  have spacing : 0 < denominator * 2 ^ power := Nat.mul_pos positive (Nat.two_pow_pos power)
  have split : 2 ^ exponent = 2 ^ (exponent - power) * 2 ^ power := by
    rw [← Nat.pow_add, Nat.sub_add_cancel onGrid]
  have atLeast : 2 ^ (exponent - power) ≤ roundToEven numerator (denominator * 2 ^ power) := by
    conv => lhs; rw [← roundToEven_mul spacing (2 ^ (exponent - power))]
    refine roundToEven_mono spacing spacing (Nat.mul_le_mul_right _ ?_)
    calc
      2 ^ (exponent - power) * (denominator * 2 ^ power) = 2 ^ exponent * denominator := by
        rw [split]; ring
      _ ≤ numerator := le
  calc
    2 ^ exponent = 2 ^ (exponent - power) * 2 ^ power := split
    _ ≤ _ := Nat.mul_le_mul_right _ atLeast

end Powers

theorem div_le_div_of_le (positive : 0 < denominator) (otherPositive : 0 < otherDenominator)
    (le : numerator * otherDenominator ≤ otherNumerator * denominator) :
    numerator / denominator ≤ otherNumerator / otherDenominator := by
  have below := Nat.mul_le_mul_right otherDenominator (Nat.div_mul_le_self numerator denominator)
  refine (Nat.le_div_iff_mul_le otherPositive).mpr ?_
  refine Nat.le_of_mul_le_mul_right ?_ positive
  calc
    numerator / denominator * otherDenominator * denominator =
        numerator / denominator * denominator * otherDenominator := by ring
    _ ≤ numerator * otherDenominator := below
    _ ≤ otherNumerator * denominator := le

theorem roundToGrid_mono (positive : 0 < denominator) (otherPositive : 0 < otherDenominator)
    (le : numerator * otherDenominator ≤ otherNumerator * denominator) :
    roundToGrid numerator denominator ≤ roundToGrid otherNumerator otherDenominator := by
  have quotients := div_le_div_of_le positive otherPositive le
  have logarithms : (numerator / denominator).log2 ≤
      (otherNumerator / otherDenominator).log2 := by
    rw [Nat.log2_eq_log_two, Nat.log2_eq_log_two]
    exact Nat.log_mono_right quotients
  change roundToEven _ (_ * 2 ^ _) * 2 ^ _ ≤ roundToEven _ (_ * 2 ^ _) * 2 ^ _
  rcases Nat.lt_or_ge ((numerator / denominator).log2 - 52)
      ((otherNumerator / otherDenominator).log2 - 52) with coarser | noCoarser
  · -- A power of two lies between the quotients, and on both grids.
    have lowerLog : (numerator / denominator).log2 + 1 ≤
        (otherNumerator / otherDenominator).log2 := by
      omega
    have otherNonzero : otherNumerator / otherDenominator ≠ 0 := by
      intro zero
      rw [zero] at coarser
      exact Nat.not_lt_zero _ coarser
    have below : numerator ≤ 2 ^ (otherNumerator / otherDenominator).log2 * denominator := by
      refine ((Nat.div_lt_iff_lt_mul positive).mp ?_).le
      exact Nat.lt_log2_self.trans_le (Nat.pow_le_pow_right (by decide) lowerLog)
    have above : 2 ^ (otherNumerator / otherDenominator).log2 * otherDenominator ≤
        otherNumerator :=
      (Nat.le_div_iff_mul_le otherPositive).mp (Nat.log2_self_le otherNonzero)
    exact (roundToEven_mul_le positive (by omega) below).trans
      (le_roundToEven_mul otherPositive (by omega) above)
  · have sameSpacing : (numerator / denominator).log2 - 52 =
        (otherNumerator / otherDenominator).log2 - 52 := by
      omega
    rw [sameSpacing]
    have spacing := Nat.two_pow_pos ((otherNumerator / otherDenominator).log2 - 52)
    refine Nat.mul_le_mul_right _ (roundToEven_mono (Nat.mul_pos positive spacing)
      (Nat.mul_pos otherPositive spacing) ?_)
    rw [← Nat.mul_assoc, ← Nat.mul_assoc]
    exact Nat.mul_le_mul_right _ le

namespace Release

theorem ofDecimal_mono {digits places otherDigits otherPlaces : Nat}
    (le : digits * 10 ^ otherPlaces ≤ otherDigits * 10 ^ places) :
    ofDecimal digits places ≤ ofDecimal otherDigits otherPlaces := by
  have positive : ∀ count : Nat, 0 < 10 ^ count := fun count => Nat.pow_pos (by decide)
  refine roundToGrid_mono (positive places) (positive otherPlaces) ?_
  calc
    digits * one * 10 ^ otherPlaces = digits * 10 ^ otherPlaces * one := by ring
    _ ≤ otherDigits * 10 ^ places * one := Nat.mul_le_mul_right one le
    _ = otherDigits * one * 10 ^ places := by ring

end Release

end EditionGuard.Browser
