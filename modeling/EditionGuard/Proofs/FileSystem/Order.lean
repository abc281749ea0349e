import EditionGuard.Proofs.FileSystem.Walk
import EditionGuard.Proofs.Text.Utf8

/-!
# The order of a walk

Names are put in the order of their characters, which is that of their bytes.  So a walk through a
proper tree lists the ways to files in the order of their names as bytes, where the first name that
differs decides.
-/

namespace EditionGuard.FileNode

open Text

theorem nameBefore_cons_iff {first second : Char} {left right : List Char} :
    nameBefore (first :: left) (second :: right) = true ↔
      first.toNat < second.toNat ∨ first = second ∧ nameBefore left right = true := by
  rw [nameBefore, Bool.or_eq_true, decide_eq_true_eq, Bool.and_eq_true, beq_iff_eq]

/-- A name stands before another just when its bytes do. -/
theorem nameBefore_iff {left right : List Char} :
    nameBefore left right = true ↔ Utf8.encode left < Utf8.encode right := by
  induction left generalizing right with
  | nil =>
      cases right with
      | nil => exact iff_of_false (by simp [nameBefore]) (List.lt_irrefl _)
      | cons second right =>
          rw [Utf8.encode_cons, Utf8.utf8EncodeChar_eq]
          exact iff_of_true rfl (List.nil_lt_cons _ _)
  | cons first left inductionHypothesis =>
      cases right with
      | nil => exact iff_of_false (by simp [nameBefore]) (List.not_lt_nil _)
      | cons second right =>
          rw [nameBefore_cons_iff, inductionHypothesis, Utf8.encode_cons, Utf8.encode_cons]
          rcases Nat.lt_trichotomy first.toNat second.toNat with below | same | above
          · exact iff_of_true (Or.inl below) (Utf8.utf8EncodeChar_append_lt below _ _)
          · rw [Char.toNat_inj.mp same, Utf8.append_lt_append_left_iff]
            simp
          · have after := Utf8.utf8EncodeChar_append_lt above (Utf8.encode right) (Utf8.encode left)
            refine iff_of_false ?_ (List.lt_asymm after)
            rintro (below | ⟨rfl, _⟩)
            · exact Nat.lt_asymm below above
            · exact Nat.lt_irrefl _ above

theorem nameBefore_of_not {left right : List Char} (different : left ≠ right)
    (notBefore : ¬ nameBefore left right = true) : nameBefore right left = true := by
  induction left generalizing right with
  | nil =>
      cases right with
      | nil => exact absurd rfl different
      | cons second right => exact absurd rfl notBefore
  | cons first left inductionHypothesis =>
      cases right with
      | nil => rfl
      | cons second right =>
          rw [nameBefore_cons_iff] at notBefore ⊢
          rcases Nat.lt_trichotomy first.toNat second.toNat with below | same | above
          · exact absurd (Or.inl below) notBefore
          · obtain rfl := Char.toNat_inj.mp same
            have restDifferent : left ≠ right := fun equal => different (congrArg _ equal)
            have restNotBefore : ¬ nameBefore left right = true := fun before =>
              notBefore (Or.inr ⟨rfl, before⟩)
            exact Or.inr ⟨rfl, inductionHypothesis restDifferent restNotBefore⟩
          · exact Or.inl above

/-- Whether the first of two named values bears the smaller name, in bytes. -/
def NameLess {α : Type} (left right : List Char × α) : Prop :=
  Utf8.encode left.1 < Utf8.encode right.1

theorem pairwise_insertNamed {α : Type} {name : List Char} (value : α)
    {items : List (List Char × α)} (fresh : ∀ item ∈ items, item.1 ≠ name)
    (sorted : items.Pairwise NameLess) : (insertNamed name value items).Pairwise NameLess := by
  induction items with
  | nil => exact List.pairwise_singleton _ _
  | cons item rest inductionHypothesis =>
      obtain ⟨itemFirst, restSorted⟩ := List.pairwise_cons.mp sorted
      rw [insertNamed]
      by_cases earlier : nameBefore item.1 name = true
      · rw [if_pos earlier]
        have restFresh : ∀ other ∈ rest, other.1 ≠ name := fun other member =>
          fresh other (List.mem_cons_of_mem item member)
        refine List.pairwise_cons.mpr ⟨?_, inductionHypothesis restFresh restSorted⟩
        intro other member
        rcases List.mem_cons.mp ((insertNamed_perm name value rest).mem_iff.mp member) with
          rfl | inRest
        · exact nameBefore_iff.mp earlier
        · exact itemFirst other inRest
      · rw [if_neg earlier]
        have nameFirst : NameLess (name, value) item :=
          nameBefore_iff.mp (nameBefore_of_not (fresh item List.mem_cons_self) earlier)
        refine List.pairwise_cons.mpr ⟨?_, sorted⟩
        intro other member
        rcases List.mem_cons.mp member with rfl | inRest
        · exact nameFirst
        · exact List.lt_trans nameFirst (itemFirst other inRest)

theorem pairwise_sortedFiles {entries : List (List Char × FileNode)}
    (distinct : (entries.map Prod.fst).Nodup) : (sortedFiles entries).Pairwise NameLess := by
  induction entries with
  | nil => exact List.Pairwise.nil
  | cons entry rest inductionHypothesis =>
      obtain ⟨name, node⟩ := entry
      obtain ⟨fresh, restDistinct⟩ := List.nodup_cons.mp distinct
      refine pairwise_insertNamed node.filesBelow ?_ (inductionHypothesis restDistinct)
      intro item member
      obtain ⟨other, inRest, rfl⟩ := List.mem_map.mp ((sortedFiles_perm rest).mem_iff.mp member)
      rintro rfl
      exact fresh (List.mem_map.mpr ⟨other, inRest, rfl⟩)

/-- Whether the first of two ways stands before the other by the bytes of their names. -/
def WayLess (left right : List (List Char)) : Prop :=
  left.map Utf8.encode < right.map Utf8.encode

theorem wayLess_cons (name : List Char) {left right : List (List Char)}
    (less : WayLess left right) : WayLess (name :: left) (name :: right) :=
  List.cons_lt_cons_iff.mpr (Or.inr ⟨rfl, less⟩)

/-- A walk through a proper tree lists the ways in their order. -/
theorem Proper.pairwise_filesBelow {node : FileNode} (proper : node.Proper) :
    node.filesBelow.Pairwise WayLess := by
  induction proper with
  | file bytes => exact List.pairwise_singleton _ _
  | @folder entries distinct _ _ inductionHypothesis =>
      rw [filesBelow, List.pairwise_flatMap]
      constructor
      · -- Ways through one entry compare by what follows its name.
        intro item member
        obtain ⟨entry, inEntries, rfl⟩ :=
          List.mem_map.mp ((sortedFiles_perm entries).mem_iff.mp member)
        exact List.pairwise_map.mpr
          ((inductionHypothesis entry inEntries).imp (wayLess_cons entry.1))
      · -- Ways through two entries compare by the names of these.
        refine (pairwise_sortedFiles distinct).imp ?_
        intro left right less way inLeft other inRight
        obtain ⟨leftRest, _, rfl⟩ := List.mem_map.mp inLeft
        obtain ⟨rightRest, _, rfl⟩ := List.mem_map.mp inRight
        exact List.cons_lt_cons_iff.mpr (Or.inl less)

end EditionGuard.FileNode
