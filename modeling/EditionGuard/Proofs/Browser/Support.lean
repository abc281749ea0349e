import EditionGuard.Browser.Support
import EditionGuard.Proofs.Browser.Rounding
import Mathlib.Data.List.TakeWhile

/-!
# Newer releases take newer editions

The edition of a release is counted by the minima that the release reaches before the first that
it misses.  A newer release reaches them too.  Where all minima of a browser are whole numbers,
what stands behind the point of a number does not matter, unless it is rounded up.
-/

namespace EditionGuard

theorem Edition.rank_getD_all {place : Nat} (listed : place < Edition.all.length) :
    ((Edition.all[place]?).getD .es5).rank = place := by
  have each : ∀ place < Edition.all.length,
      ((Edition.all[place]?).getD .es5).rank = place := by
    decide
  exact each place listed

namespace Browser

variable {browser : Browser} {older newer : Release}

theorem Release.le_trans {first second third : Release} (firstSecond : first ≤ second)
    (secondThird : second ≤ third) : first ≤ third :=
  Nat.le_trans firstSecond secondThird

theorem length_takeWhile_le_of_imp {Item : Type} {first second : Item → Bool} {items : List Item}
    (imp : ∀ item ∈ items, first item = true → second item = true) :
    (items.takeWhile first).length ≤ (items.takeWhile second).length := by
  induction items with
  | nil => exact Nat.le_refl 0
  | cons item rest inductionHypothesis =>
      by_cases passes : first item = true
      · have alsoPasses := imp item List.mem_cons_self passes
        have atRest := inductionHypothesis fun other member =>
          imp other (List.mem_cons_of_mem item member)
        rw [List.takeWhile_cons_of_pos passes, List.takeWhile_cons_of_pos alsoPasses,
          List.length_cons, List.length_cons]
        exact Nat.succ_le_succ atRest
      · rw [List.takeWhile_cons_of_neg passes]
        exact Nat.zero_le _

theorem length_minima_lt (browser : Browser) : browser.minima.length < Edition.all.length := by
  cases browser <;> decide

/-- A release that reaches each minimum which another reaches takes no older edition. -/
theorem edition_le_of_reaches
    (reaches : ∀ minimum ∈ browser.minima, minimum ≤ older → minimum ≤ newer) :
    browser.edition older ≤ browser.edition newer := by
  have shorter : (browser.minima.takeWhile fun minimum => minimum ≤ older).length ≤
      (browser.minima.takeWhile fun minimum => minimum ≤ newer).length := by
    refine length_takeWhile_le_of_imp fun minimum listed reached => ?_
    have reachedToo := reaches minimum listed (of_decide_eq_true reached)
    exact decide_eq_true reachedToo
  have listed : ∀ release : Release,
      (browser.minima.takeWhile fun minimum => minimum ≤ release).length <
        Edition.all.length := by
    intro release
    exact (List.takeWhile_prefix _).length_le.trans_lt (length_minima_lt browser)
  rw [Edition.le_iff_rank_le, edition, edition, Edition.rank_getD_all (listed older),
    Edition.rank_getD_all (listed newer)]
  exact shorter

theorem edition_mono (browser : Browser) (le : older ≤ newer) :
    browser.edition older ≤ browser.edition newer :=
  edition_le_of_reaches fun _ _ reached => Release.le_trans reached le

def HasWholeMinima (browser : Browser) : Prop :=
  ∀ minimum ∈ browser.minima, ∃ number, minimum = .major number

theorem major_mono {number other : Nat} (le : number ≤ other) :
    Release.major number ≤ .major other :=
  Release.ofDecimal_mono (Nat.mul_le_mul_right _ le)

/-- Between two whole numbers no minimum is missed that is whole itself. -/
theorem edition_le_of_whole (whole : browser.HasWholeMinima) {number : Nat}
    (below : older < .major (number + 1)) (above : .major number ≤ newer) :
    browser.edition older ≤ browser.edition newer := by
  refine edition_le_of_reaches fun minimum listed reached => ?_
  obtain ⟨reachedNumber, rfl⟩ := whole minimum listed
  have notAfter : reachedNumber ≤ number := by
    by_contra after
    have further : Release.major (number + 1) ≤ older :=
      Release.le_trans (major_mono (Nat.lt_of_not_le after)) reached
    exact Nat.lt_irrefl _ (Nat.lt_of_lt_of_le below further)
  exact Release.le_trans (major_mono notAfter) above

end Browser

end EditionGuard
