import EditionGuard.Edition

/-!
# The order of editions

Editions form a finite chain with `latest` on top.  Each is shown by a word of its own, and
no such word holds a blank, so a word at the end of a message tells the edition.
-/

namespace EditionGuard.Edition

variable {left middle right : Edition}

theorem lt_iff_rank_lt : left < right ↔ left.rank < right.rank :=
  Iff.rfl

theorem not_le_iff_lt : ¬ left ≤ right ↔ right < left := by
  rw [le_iff_rank_le, lt_iff_rank_lt]
  exact Nat.not_le

theorem lt_of_le_of_lt (first : left ≤ middle) (second : middle < right) : left < right :=
  Nat.lt_of_le_of_lt first second

theorem le_latest (edition : Edition) : edition ≤ .latest := by
  cases edition <;> decide

theorem ne_latest_of_lt (below : left < right) : left ≠ .latest := by
  rintro rfl
  have above : right.rank ≤ Edition.latest.rank := le_latest right
  exact Nat.not_lt.mpr above below

theorem all_pairwise_le : all.Pairwise (· ≤ ·) := by
  decide

theorem display_injective (equal : left.display = right.display) : left = right := by
  cases left <;> cases right <;> first | rfl | exact absurd equal (by decide)

theorem blank_not_mem_display (edition : Edition) : ' ' ∉ edition.display.toList := by
  cases edition <;> decide

end EditionGuard.Edition
