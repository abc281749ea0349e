/-!
# Computations that may fail

A computation that succeeds has succeeded in each of its parts.  A list of computations fails with
the first of them that fails.
-/

namespace EditionGuard

variable {ε α β : Type}

theorem ok_bind (value : α) (next : α → Except ε β) : (Except.ok value >>= next) = next value := rfl

theorem error_bind (stop : ε) (next : α → Except ε β) :
    (Except.error stop >>= next) = .error stop := rfl

theorem exists_of_bind_eq_ok {first : Except ε α} {next : α → Except ε β} {result : β}
    (bound : (first >>= next) = .ok result) :
    ∃ value, first = .ok value ∧ next value = .ok result := by
  cases first with
  | error stop => cases bound
  | ok value => exact ⟨value, rfl, bound⟩

theorem exists_of_bind_eq_error {first : Except ε α} {next : α → Except ε β} {stop : ε}
    (bound : (first >>= next) = .error stop) :
    first = .error stop ∨ ∃ value, first = .ok value ∧ next value = .error stop := by
  cases first with
  | error other =>
      cases bound
      exact Or.inl rfl
  | ok value => exact Or.inr ⟨value, rfl, bound⟩

theorem exists_of_map_eq_ok {computation : Except ε α} {read : α → β} {result : β}
    (mapped : computation.map read = .ok result) :
    ∃ value, computation = .ok value ∧ read value = result := by
  cases computation with
  | error stop => cases mapped
  | ok value => exact ⟨value, rfl, Except.ok.inj mapped⟩

theorem map_map {γ : Type} (computation : Except ε α) (read : α → β) (further : β → γ) :
    (computation.map read).map further = computation.map (further ∘ read) := by
  cases computation <;> rfl

theorem map_eq_error_iff {computation : Except ε α} {read : α → β} {stop : ε} :
    computation.map read = .error stop ↔ computation = .error stop := by
  cases computation <;> simp [Except.map]

theorem exists_of_map_toOption_eq_some {computation : Except ε α} {read : α → β} {result : β}
    (shown : computation.toOption.map read = some result) :
    ∃ value, computation = .ok value ∧ read value = result := by
  cases computation with
  | error stop => cases shown
  | ok value => exact ⟨value, rfl, Option.some.inj shown⟩

section Lists

variable {convert : α → Except ε β} {items : List α}

theorem mapM_eq_ok_iff {results : List β} :
    items.mapM convert = .ok results ↔ items.map convert = results.map .ok := by
  induction items generalizing results with
  | nil => cases results <;> simp [pure, Except.pure]
  | cons item rest inductionHypothesis =>
      rw [List.mapM_cons, List.map_cons]
      constructor
      · intro bound
        obtain ⟨first, isFirst, others⟩ := exists_of_bind_eq_ok bound
        obtain ⟨found, areFound, made⟩ := exists_of_bind_eq_ok others
        cases made
        rw [List.map_cons, isFirst, inductionHypothesis.mp areFound]
      · intro same
        cases results with
        | nil => cases same
        | cons first found =>
            obtain ⟨isFirst, areFound⟩ := List.cons.inj same
            rw [isFirst, inductionHypothesis.mpr areFound]
            rfl

theorem mapM_eq_error_iff {stop : ε} :
    items.mapM convert = .error stop ↔ ∃ front item back, items = front ++ item :: back ∧
      (∀ other ∈ front, ∃ value, convert other = .ok value) ∧ convert item = .error stop := by
  induction items with
  | nil => simp [pure, Except.pure]
  | cons first rest inductionHypothesis =>
      rw [List.mapM_cons]
      constructor
      · intro failed
        rcases exists_of_bind_eq_error failed with firstFails | ⟨value, converted, others⟩
        · exact ⟨[], first, rest, rfl, by simp, firstFails⟩
        · have restFails : rest.mapM convert = .error stop := by
            rcases exists_of_bind_eq_error others with restFails | ⟨results, _, made⟩
            · exact restFails
            · cases made
          obtain ⟨front, item, back, rfl, succeed, itemFails⟩ := inductionHypothesis.mp restFails
          refine ⟨first :: front, item, back, rfl, ?_, itemFails⟩
          exact List.forall_mem_cons.mpr ⟨⟨value, converted⟩, succeed⟩
      · rintro ⟨front, item, back, split, succeed, itemFails⟩
        cases front with
        | nil =>
            obtain ⟨rfl, _⟩ := List.cons.inj split
            rw [itemFails]
            rfl
        | cons head more =>
            obtain ⟨rfl, isRest⟩ := List.cons.inj split
            obtain ⟨⟨value, converted⟩, moreSucceed⟩ := List.forall_mem_cons.mp succeed
            have restFails :=
              inductionHypothesis.mpr ⟨more, item, back, isRest, moreSucceed, itemFails⟩
            rw [converted, restFails]
            rfl

/-- A list of computations fails if and only if one of them does. -/
theorem exists_mapM_eq_error_iff :
    (∃ stop, items.mapM convert = .error stop) ↔
      ∃ item ∈ items, ∃ stop, convert item = .error stop := by
  constructor
  · rintro ⟨stop, failed⟩
    obtain ⟨front, item, back, rfl, _, itemFails⟩ := mapM_eq_error_iff.mp failed
    exact ⟨item, List.mem_append_right front (.head back), stop, itemFails⟩
  · rintro ⟨item, member, stop, itemFails⟩
    cases converted : items.mapM convert with
    | error other => exact ⟨other, rfl⟩
    | ok results =>
        have listed : convert item ∈ items.map convert := List.mem_map_of_mem member
        rw [mapM_eq_ok_iff.mp converted, itemFails] at listed
        obtain ⟨result, _, isOk⟩ := List.mem_map.mp listed
        cases isOk

end Lists

end EditionGuard
