import EditionGuard.Proofs.Edition
import EditionGuard.Proofs.Except
import EditionGuard.Proofs.Least
import EditionGuard.Proofs.Target.ReleaseOrder
import EditionGuard.Proofs.Target.Respelling

/-!
# The edition that targets share

A list of targets stands for the oldest of their editions.  The first target that is not known is
refused, and so is a list of none.  Which targets a list holds decides on the edition, not where
or how often they stand in it, nor how they are spelled; one more target can only make it older.
-/

namespace EditionGuard

theorem Edition.le_older_iff {bound left right : Edition} :
    bound ≤ older left right ↔ bound ≤ left ∧ bound ≤ right := by
  simp only [older, le_iff_rank_le]
  split <;> omega

theorem Edition.older_le (left right : Edition) :
    older left right ≤ left ∧ older left right ≤ right :=
  le_older_iff.mp (Nat.le_refl (older left right).rank)

theorem Edition.older_eq_or (left right : Edition) :
    older left right = left ∨ older left right = right := by
  rw [older]
  split
  · exact Or.inl rfl
  · exact Or.inr rfl

namespace Target

variable {text : String} {texts others : List String} {edition : Edition}

theorem resolve_eq_ok_iff :
    resolve text = .ok edition ↔ ∃ target, ofText? text = some target ∧ target.edition = edition := by
  rw [resolve]
  cases ofText? text with
  | none => simp
  | some target => simp

theorem resolve_eq_error_iff {problem : Problem} : resolve text = .error problem ↔
    problem = .unknownTarget text ∧ ∀ edition, resolve text ≠ .ok edition := by
  rw [resolve]
  cases ofText? text with
  | none => simp [eq_comm]
  | some target => simp

theorem resolveAll_of_mapM_error {problem : Problem}
    (failed : texts.mapM resolve = .error problem) : resolveAll texts = .error problem := by
  rw [resolveAll, failed]
  rfl

theorem resolveAll_eq_missing_iff : resolveAll texts = .error .missingTarget ↔ texts = [] := by
  constructor
  · intro missing
    cases resolved : texts.mapM resolve with
    | error problem =>
        obtain ⟨_, text, _, _, _, failed⟩ := mapM_eq_error_iff.mp resolved
        rw [resolveAll_of_mapM_error resolved] at missing
        obtain ⟨isUnknown, _⟩ := resolve_eq_error_iff.mp failed
        cases isUnknown
        cases missing
    | ok editions =>
        rw [resolveAll, resolved] at missing
        cases editions with
        | nil => exact List.map_eq_nil_iff.mp (mapM_eq_ok_iff.mp resolved)
        | cons first rest => cases missing
  · rintro rfl
    rfl

theorem resolveAll_eq_unknown_iff : resolveAll texts = .error (.unknownTarget text) ↔
    ∃ front back, texts = front ++ text :: back ∧
      (∀ other ∈ front, ∃ edition, resolve other = .ok edition) ∧
      ∀ edition, resolve text ≠ .ok edition := by
  constructor
  · intro unknown
    cases resolved : texts.mapM resolve with
    | error problem =>
        rw [resolveAll_of_mapM_error resolved] at unknown
        cases unknown
        obtain ⟨front, failing, back, split, resolve, failed⟩ := mapM_eq_error_iff.mp resolved
        obtain ⟨sameText, notResolved⟩ := resolve_eq_error_iff.mp failed
        cases sameText
        exact ⟨front, back, split, resolve, notResolved⟩
    | ok editions =>
        rw [resolveAll, resolved] at unknown
        cases editions <;> cases unknown
  · rintro ⟨front, back, split, frontResolves, notResolved⟩
    refine resolveAll_of_mapM_error (mapM_eq_error_iff.mpr ?_)
    exact ⟨front, text, back, split, frontResolves, resolve_eq_error_iff.mpr ⟨rfl, notResolved⟩⟩

/-- The edition of a list is the oldest of those of its targets. -/
def IsOldest (texts : List String) (edition : Edition) : Prop :=
  (∃ text ∈ texts, resolve text = .ok edition) ∧
    ∀ text ∈ texts, ∃ found, resolve text = .ok found ∧ edition ≤ found

theorem IsOldest.unique {other : Edition} (oldest : IsOldest texts edition)
    (otherOldest : IsOldest texts other) : edition = other := by
  have atMost : ∀ {first second : Edition}, IsOldest texts first → IsOldest texts second →
      first ≤ second := by
    intro first second firstOldest secondOldest
    obtain ⟨text, listed, resolved⟩ := secondOldest.1
    obtain ⟨found, alsoResolved, le⟩ := firstOldest.2 text listed
    rw [resolved] at alsoResolved
    cases alsoResolved
    exact le
  exact Edition.rank_injective
    (Nat.le_antisymm (atMost oldest otherOldest) (atMost otherOldest oldest))

theorem isOldest_foldl_older {first : Edition} {rest : List Edition}
    (resolved : texts.mapM resolve = .ok (first :: rest)) :
    IsOldest texts (rest.foldl Edition.older first) := by
  have sameResults := mapM_eq_ok_iff.mp resolved
  constructor
  · have member := foldl_mem_cons Edition.older_eq_or rest first
    have listed := List.mem_map_of_mem (f := Except.ok (ε := Problem)) member
    rw [← sameResults] at listed
    exact List.mem_map.mp listed
  · intro text listed
    have isResult := List.mem_map_of_mem (f := resolve) listed
    rw [sameResults] at isResult
    obtain ⟨found, member, isFound⟩ := List.mem_map.mp isResult
    obtain ⟨leFirst, leRest⟩ := (le_foldl_iff Edition.le_older_iff).mp
      (Nat.le_refl (rest.foldl Edition.older first).rank)
    refine ⟨found, isFound.symm, ?_⟩
    rcases List.mem_cons.mp member with rfl | inRest
    · exact leFirst
    · exact leRest found inRest

theorem resolveAll_eq_ok_iff : resolveAll texts = .ok edition ↔ IsOldest texts edition := by
  rw [resolveAll]
  cases resolved : texts.mapM resolve with
  | error problem =>
      constructor
      · intro succeeded
        cases succeeded
      · intro oldest
        obtain ⟨front, failing, back, rfl, _, failed⟩ := mapM_eq_error_iff.mp resolved
        obtain ⟨found, isFound, _⟩ :=
          oldest.2 failing (List.mem_append_right front List.mem_cons_self)
        rw [failed] at isFound
        cases isFound
  | ok editions =>
      cases editions with
      | nil =>
          constructor
          · intro succeeded
            cases succeeded
          · intro oldest
            obtain ⟨text, listed, _⟩ := oldest.1
            rw [List.map_eq_nil_iff.mp (mapM_eq_ok_iff.mp resolved)] at listed
            cases listed
      | cons first rest =>
          have oldest := isOldest_foldl_older resolved
          constructor
          · rintro ⟨⟩
            exact oldest
          · intro otherOldest
            rw [otherOldest.unique oldest]
            rfl

/-- Each target of the first list stands in the second, perhaps in another spelling. -/
def RespelledIn (texts others : List String) : Prop :=
  ∀ text ∈ texts, ∃ other ∈ others, Respells text other

theorem Respells.resolve_eq_ok_iff {other : String} (respells : Respells text other) :
    resolve other = .ok edition ↔ resolve text = .ok edition := by
  rw [Target.resolve_eq_ok_iff, Target.resolve_eq_ok_iff, respells.ofText?_eq]

theorem IsOldest.respelled (oldest : IsOldest texts edition) (into : RespelledIn texts others)
    (back : RespelledIn others texts) : IsOldest others edition := by
  obtain ⟨⟨text, listed, resolved⟩, atMost⟩ := oldest
  constructor
  · obtain ⟨other, otherListed, respells⟩ := into text listed
    exact ⟨other, otherListed, respells.resolve_eq_ok_iff.mpr resolved⟩
  · intro other otherListed
    obtain ⟨origin, originListed, respells⟩ := back other otherListed
    obtain ⟨found, isFound, le⟩ := atMost origin originListed
    exact ⟨found, respells.resolve_eq_ok_iff.mp isFound, le⟩

theorem IsOldest.insert {front back : List String} {query : String} {found : Edition}
    (oldest : IsOldest (front ++ back) edition) (resolved : resolve query = .ok found) :
    IsOldest (front ++ query :: back) (edition.older found) := by
  obtain ⟨leEdition, leFound⟩ := Edition.older_le edition found
  obtain ⟨⟨text, listed, isEdition⟩, atMost⟩ := oldest
  have isMember : ∀ {other : String},
      other ∈ front ++ query :: back ↔ other = query ∨ other ∈ front ++ back := by
    intro other
    simp only [List.mem_append, List.mem_cons]
    exact or_left_comm
  constructor
  · rcases Edition.older_eq_or edition found with same | same
    · exact ⟨text, isMember.mpr (Or.inr listed), by rw [same, isEdition]⟩
    · exact ⟨query, isMember.mpr (Or.inl rfl), by rw [same, resolved]⟩
  · intro other member
    rcases isMember.mp member with rfl | isOther
    · exact ⟨found, resolved, leFound⟩
    · obtain ⟨otherFound, isFound, le⟩ := atMost other isOther
      exact ⟨otherFound, isFound, Nat.le_trans leEdition le⟩

/-- A list of targets stands for the oldest edition of its targets, or is refused for the first
that is not known.  On success only the targets count, in any order, number and spelling, and one
more makes the edition no newer. -/
theorem resolveAll_shared (texts : List String) :
    (resolveAll texts = .error .missingTarget ↔ texts = []) ∧
    (∀ text, resolveAll texts = .error (.unknownTarget text) ↔
      ∃ front back, texts = front ++ text :: back ∧
        (∀ other ∈ front, ∃ edition, resolveAll [other] = .ok edition) ∧
        ∀ edition, resolveAll [text] ≠ .ok edition) ∧
    (∀ edition, resolveAll texts = .ok edition ↔
      (∃ text ∈ texts, resolveAll [text] = .ok edition) ∧
        ∀ text ∈ texts, ∃ found, resolveAll [text] = .ok found ∧ edition ≤ found) ∧
    ∀ edition, resolveAll texts = .ok edition →
      (∀ others, RespelledIn texts others → RespelledIn others texts →
        resolveAll others = .ok edition) ∧
      ∀ front back query found, texts = front ++ back → resolveAll [query] = .ok found →
        ∃ lower, resolveAll (front ++ query :: back) = .ok lower ∧ lower ≤ edition := by
  simp only [resolveAll_singleton]
  refine ⟨resolveAll_eq_missing_iff, fun _ => resolveAll_eq_unknown_iff,
    fun _ => resolveAll_eq_ok_iff, ?_⟩
  intro edition succeeded
  have oldest := resolveAll_eq_ok_iff.mp succeeded
  constructor
  · intro others into back
    exact resolveAll_eq_ok_iff.mpr (oldest.respelled into back)
  · rintro front back query found rfl resolved
    refine ⟨edition.older found, resolveAll_eq_ok_iff.mpr (oldest.insert resolved), ?_⟩
    exact (Edition.older_le edition found).1

theorem resolveAll_shared_respelled :
    resolveAll ["Chrome >= 100", "safari >= 12"] = .ok .es2017 ∧
      resolveAll [" safari >= 12 ", "and_chr >= 100", "safari >= 12"] = .ok .es2017 ∧
      ∃ lower, resolveAll ["Chrome >= 100", "ie 11", "safari >= 12"] = .ok lower ∧
        lower ≤ .es2017 := by
  have succeeded : resolveAll ["Chrome >= 100", "safari >= 12"] = .ok .es2017 := by
    decide +kernel
  have explorer : resolveAll ["ie 11"] = .ok .es5 := by
    decide +kernel
  have ends : ∀ char ∈ " >= 100".toList.head?, isNameChar char = false := by
    intro char isFirst
    cases Option.mem_some.mp isFirst
    rfl
  have chrome : Respells "Chrome >= 100" "and_chr >= 100" :=
    @Respells.renamed "Chrome".toList "and_chr".toList " >= 100".toList .chrome (by decide)
      (by decide) ends
  have safari : Respells "safari >= 12" " safari >= 12 " :=
    @Respells.padded [' '] "safari >= 12".toList [' '] (List.all_eq_true.mp rfl)
      (List.all_eq_true.mp rfl)
  have into : RespelledIn ["Chrome >= 100", "safari >= 12"]
      [" safari >= 12 ", "and_chr >= 100", "safari >= 12"] := by
    simp only [RespelledIn, List.forall_mem_cons]
    exact ⟨⟨_, by simp, chrome⟩, ⟨_, by simp, .refl _⟩, by simp⟩
  have back : RespelledIn [" safari >= 12 ", "and_chr >= 100", "safari >= 12"]
      ["Chrome >= 100", "safari >= 12"] := by
    simp only [RespelledIn, List.forall_mem_cons]
    exact ⟨⟨_, by simp, safari.symm⟩, ⟨_, by simp, chrome.symm⟩, ⟨_, by simp, .refl _⟩, by simp⟩
  obtain ⟨-, -, -, further⟩ := resolveAll_shared ["Chrome >= 100", "safari >= 12"]
  obtain ⟨same, added⟩ := further .es2017 succeeded
  exact ⟨succeeded, same _ into back,
    added ["Chrome >= 100"] ["safari >= 12"] "ie 11" .es5 rfl explorer⟩

end Target

end EditionGuard
