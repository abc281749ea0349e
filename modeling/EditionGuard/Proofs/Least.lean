/-!
# The least of some

A fold that keeps the smaller of two gives the greatest bound that lies below all, and one of
them.
-/

namespace EditionGuard

variable {Item : Type} {smaller : Item → Item → Item}

theorem le_foldl_iff [LE Item]
    (le_smaller_iff : ∀ {bound left right : Item},
      bound ≤ smaller left right ↔ bound ≤ left ∧ bound ≤ right)
    {items : List Item} {start bound : Item} :
    bound ≤ items.foldl smaller start ↔ bound ≤ start ∧ ∀ item ∈ items, bound ≤ item := by
  induction items generalizing start with
  | nil => simp
  | cons item rest inductionHypothesis =>
      rw [List.foldl_cons, inductionHypothesis, le_smaller_iff, and_assoc, List.forall_mem_cons]

theorem foldl_mem_cons
    (smaller_eq_or : ∀ left right, smaller left right = left ∨ smaller left right = right)
    (items : List Item) (start : Item) : items.foldl smaller start ∈ start :: items := by
  induction items generalizing start with
  | nil => exact List.mem_cons_self
  | cons item rest inductionHypothesis =>
      rw [List.foldl_cons]
      rcases List.mem_cons.mp (inductionHypothesis (smaller start item)) with isStart | inRest
      · rw [isStart]
        rcases smaller_eq_or start item with left | right
        · rw [left]
          exact List.mem_cons_self
        · rw [right]
          exact List.mem_cons_of_mem start List.mem_cons_self
      · exact List.mem_cons_of_mem start (List.mem_cons_of_mem item inRest)

end EditionGuard
