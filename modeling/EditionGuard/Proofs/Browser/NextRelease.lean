import EditionGuard.Proofs.Browser.Support
import EditionGuard.Proofs.Least

/-!
# The next release

The release after another is the least of the next whole number and the minima that lie above.
It is later than the other, it never comes before that of an earlier release, and no whole number
stands between.
-/

namespace EditionGuard.Browser

namespace Release

variable {release bound left right : Release}

theorem le_refl (release : Release) : release ≤ release :=
  Nat.le_refl release.units

theorem lt_of_le_of_ne (le : left ≤ right) (ne : left ≠ right) : left < right := by
  obtain ⟨leftUnits⟩ := left
  obtain ⟨rightUnits⟩ := right
  exact Nat.lt_of_le_of_ne le fun sameUnits => ne (congrArg Release.mk sameUnits)

theorem le_earlier_iff : bound ≤ earlier left right ↔ bound ≤ left ∧ bound ≤ right := by
  simp only [earlier, le_iff_units_le]
  split <;> omega

theorem exists_one_eq : ∃ exponent, one = Nat.pow 2 exponent := by
  unfold one
  exact ⟨_, Eq.refl _⟩

theorem one_pos : 0 < one := by
  obtain ⟨exponent, isPower⟩ := exists_one_eq
  rw [isPower, Nat.pow_eq]
  exact Nat.two_pow_pos exponent

theorem units_nextMajor (release : Release) :
    release.nextMajor.units = (release.units / one + 1) * one :=
  rfl

theorem lt_nextMajor (release : Release) : release < release.nextMajor := by
  change release.units < release.nextMajor.units
  rw [units_nextMajor]
  exact Nat.lt_mul_of_div_lt (Nat.lt_succ_self _) one_pos

theorem nextMajor_mono (le : left ≤ right) : left.nextMajor ≤ right.nextMajor := by
  have quotients : left.units / one ≤ right.units / one := Nat.div_le_div_right le
  rw [le_iff_units_le, units_nextMajor, units_nextMajor]
  exact Nat.mul_le_mul_right one (Nat.succ_le_succ quotients)

theorem exists_roundToGrid_mul_two_pow (number exponent : Nat) :
    ∃ whole, roundToGrid (number * 2 ^ exponent) 1 = whole * 2 ^ exponent := by
  have rounded : roundToGrid (number * 2 ^ exponent) 1 =
      roundToEven (number * 2 ^ exponent) (1 * 2 ^ ((number * 2 ^ exponent / 1).log2 - 52)) *
        2 ^ ((number * 2 ^ exponent / 1).log2 - 52) := rfl
  rw [rounded, Nat.one_mul]
  generalize (number * 2 ^ exponent / 1).log2 - 52 = power
  -- A coarse grid has multiples of the power only; on a fine one the number lies already.
  rcases Nat.le_total exponent power with coarse | fine
  · refine ⟨roundToEven (number * 2 ^ exponent) (2 ^ power) * 2 ^ (power - exponent), ?_⟩
    rw [Nat.mul_assoc, ← Nat.pow_add, Nat.sub_add_cancel coarse]
  · have onGrid : number * 2 ^ exponent = number * 2 ^ (exponent - power) * 2 ^ power := by
      rw [Nat.mul_assoc, ← Nat.pow_add, Nat.sub_add_cancel fine]
    refine ⟨number, ?_⟩
    rw [onGrid, roundToEven_mul (Nat.two_pow_pos power)]

theorem exists_units_major (number : Nat) : ∃ whole, (major number).units = whole * one := by
  obtain ⟨exponent, isPower⟩ := exists_one_eq
  obtain ⟨whole, isWhole⟩ := exists_roundToGrid_mul_two_pow number exponent
  rw [← Nat.pow_eq, ← isPower] at isWhole
  exact ⟨whole, isWhole⟩

theorem nextMajor_le_major {number : Nat} (below : release < major number) :
    release.nextMajor ≤ major number := by
  obtain ⟨whole, isWhole⟩ := exists_units_major number
  have belowWhole : release.units < whole * one := by
    rw [← isWhole]
    exact below
  have quotient : release.units / one < whole := Nat.div_lt_of_lt_mul (by
    rw [Nat.mul_comm]
    exact belowWhole)
  rw [le_iff_units_le, isWhole]
  exact Nat.mul_le_mul_right one quotient

end Release

variable {browser : Browser} {release older newer bound : Release}

theorem le_nextRelease_iff : bound ≤ browser.nextRelease release ↔
    bound ≤ release.nextMajor ∧ ∀ minimum ∈ browser.minima, release < minimum →
      bound ≤ minimum := by
  rw [nextRelease, le_foldl_iff Release.le_earlier_iff]
  simp only [List.mem_filter, decide_eq_true_eq, and_imp]

theorem lt_nextRelease (browser : Browser) (release : Release) :
    release < browser.nextRelease release := by
  have later : (⟨release.units + 1⟩ : Release) ≤ browser.nextRelease release :=
    le_nextRelease_iff.mpr ⟨release.lt_nextMajor, fun _ _ above => above⟩
  exact later

theorem nextRelease_le_nextMajor (browser : Browser) (release : Release) :
    browser.nextRelease release ≤ release.nextMajor :=
  (le_nextRelease_iff.mp (Release.le_refl _)).1

theorem nextRelease_mono (browser : Browser) (le : older ≤ newer) :
    browser.nextRelease older ≤ browser.nextRelease newer := by
  obtain ⟨atMostMajor, atMostMinima⟩ :=
    le_nextRelease_iff.mp (Release.le_refl (browser.nextRelease older))
  refine le_nextRelease_iff.mpr
    ⟨Release.le_trans atMostMajor (Release.nextMajor_mono le), fun minimum listed above => ?_⟩
  exact atMostMinima minimum listed (Nat.lt_of_le_of_lt le above)

end EditionGuard.Browser
