import EditionGuard.Text.Basic

/-!
# Texts cut at every separator

The pieces of a text between its separators.  None of them holds the separator, there is one more
than there are separators, and joined by it they make the text again.
-/

namespace EditionGuard.Text

variable {char separator : Char}

theorem splitAt_cons_self (separator : Char) (rest : List Char) :
    splitAt separator (separator :: rest) = [] :: splitAt separator rest := by
  rw [splitAt, if_pos (beq_self_eq_true separator)]

theorem exists_splitAt_cons (different : char ≠ separator) (rest : List Char) :
    ∃ first others, splitAt separator rest = first :: others ∧
      splitAt separator (char :: rest) = (char :: first) :: others := by
  obtain ⟨first, others, cut⟩ : ∃ first others, splitAt separator rest = first :: others := by
    refine List.exists_cons_of_ne_nil ?_
    fun_cases splitAt separator rest <;> simp
  refine ⟨first, others, cut, ?_⟩
  rw [splitAt, if_neg (by simpa using different), cut]

theorem length_splitAt (separator : Char) (text : List Char) :
    (splitAt separator text).length = text.count separator + 1 := by
  induction text with
  | nil => rfl
  | cons char rest inductionHypothesis =>
      by_cases separates : char = separator
      · rw [separates, splitAt_cons_self, List.length_cons, inductionHypothesis,
          List.count_cons_self]
      · obtain ⟨first, others, cut, cutWhole⟩ := exists_splitAt_cons separates rest
        rw [cut] at inductionHypothesis
        rw [cutWhole, List.count_cons_of_ne separates, ← inductionHypothesis]
        rfl

theorem not_mem_of_mem_splitAt {text piece : List Char} (member : piece ∈ splitAt separator text) :
    separator ∉ piece := by
  induction text generalizing piece with
  | nil =>
      have isEmpty : piece = [] := List.mem_singleton.mp member
      simp [isEmpty]
  | cons char rest inductionHypothesis =>
      by_cases separates : char = separator
      · rw [separates, splitAt_cons_self] at member
        rcases List.mem_cons.mp member with isEmpty | inRest
        · simp [isEmpty]
        · exact inductionHypothesis inRest
      · obtain ⟨first, others, cut, cutWhole⟩ := exists_splitAt_cons separates rest
        rw [cut] at inductionHypothesis
        rw [cutWhole] at member
        rcases List.mem_cons.mp member with isFirst | inOthers
        · have notInFirst := inductionHypothesis List.mem_cons_self
          simp [isFirst, notInFirst, Ne.symm separates]
        · exact inductionHypothesis (List.mem_cons_of_mem first inOthers)

theorem splitAt_eq_splitOn (separator : Char) (text : List Char) :
    splitAt separator text = text.splitOn separator := by
  induction text with
  | nil => simp [splitAt]
  | cons char rest inductionHypothesis =>
      rw [splitAt, List.splitOn_cons_eq_if_modifyHead, inductionHypothesis]
      by_cases separates : char == separator
      · rw [if_pos separates, if_pos separates]
      · rw [if_neg separates, if_neg separates]
        cases parts : rest.splitOn separator with
        | nil => exact absurd parts (List.splitOn_ne_nil separator rest)
        | cons first others => rfl

theorem splitAt_append_cons (left right : List Char) :
    splitAt separator (left ++ separator :: right) =
      splitAt separator left ++ splitAt separator right := by
  simp only [splitAt_eq_splitOn]
  exact List.splitOn_append_cons_self left right

theorem splitAt_intercalate {pieces : List (List Char)} (nonempty : pieces ≠ [])
    (whole : ∀ piece ∈ pieces, separator ∉ piece) :
    splitAt separator (List.intercalate [separator] pieces) = pieces := by
  rw [splitAt_eq_splitOn]
  exact List.splitOn_intercalate separator whole nonempty

end EditionGuard.Text
