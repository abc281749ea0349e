import EditionGuard.Proofs.Path.Display
import Mathlib.Data.List.Induction

/-!
# Components of joined paths

A path that does not start at the top, put behind a folder, adds its parts to the components of
the folder.  So a path that is made of proper parts has these parts for its components.
-/

namespace EditionGuard.Path

theorem parts_append_slash (left right : List Char) :
    parts (left ++ '/' :: right) = parts left ++ parts right := by
  rw [parts, names_append_slash, List.filterMap_append]
  rfl

theorem parts_withoutFinalSlash (path : List Char) :
    parts (withoutFinalSlash path) = parts path := by
  by_cases slash : path.getLast? = some '/'
  · have cut := eq_withoutFinalSlash_append slash
    have noParts : parts [] = [] := rfl
    conv => rhs; rw [cut, parts_append_slash, noParts, List.append_nil]
  · rw [withoutFinalSlash, if_neg slash]

theorem leading_append_slash {left : List Char} (nonempty : left ≠ []) (right : List Char) :
    leading (left ++ '/' :: right) = leading left := by
  cases left with
  | nil => exact absurd rfl nonempty
  | cons first rest =>
      by_cases isSlash : first = '/'
      · subst isSlash
        rfl
      · by_cases isDot : first = '.'
        · subst isDot
          cases rest with
          | nil => rfl
          | cons second others =>
              by_cases behindDot : second = '/'
              · subst behindDot
                rfl
              · simp [leading, behindDot]
        · simp [leading, isSlash, isDot]

theorem leading_join {base path : List Char} (nonempty : base ≠ [])
    (relative : isAbsolute path = false) : leading (join base path) = leading base := by
  rw [join_eq_append nonempty relative]
  by_cases slash : base.getLast? = some '/'
  · have cut := eq_withoutFinalSlash_append slash
    conv => rhs; rw [cut]
    by_cases top : withoutFinalSlash base = []
    · rw [top]
      rfl
    · rw [leading_append_slash top, leading_append_slash top]
  · rw [withoutFinalSlash, if_neg slash, leading_append_slash nonempty]

theorem components_join {base path : List Char} (nonempty : base ≠ [])
    (relative : isAbsolute path = false) :
    components (join base path) = components base ++ parts path := by
  have joinedParts : parts (join base path) = parts base ++ parts path := by
    rw [join_eq_append nonempty relative, parts_append_slash, parts_withoutFinalSlash]
  rw [components_eq, components_eq, leading_join nonempty relative, joinedParts,
    List.append_assoc]

/-- Whether a component is written as a name between slashes. -/
def Component.IsPart (part : Component) : Prop :=
  Component.ofName? part.text = some part ∧ '/' ∉ part.text

theorem Component.isPart_parent : Component.parent.IsPart := by
  refine ⟨rfl, ?_⟩
  decide

theorem Component.text_of_ofName? {name : List Char} {part : Component}
    (isPart : ofName? name = some part) : part.text = name := by
  unfold ofName? at isPart
  split at isPart
  · cases isPart
  · cases isPart
  · obtain rfl := Option.some.inj isPart
    rfl
  · obtain rfl := Option.some.inj isPart
    rfl

theorem isPart_of_mem_parts {path : List Char} {part : Component} (member : part ∈ parts path) :
    part.IsPart := by
  obtain ⟨name, inNames, isPart⟩ := List.mem_filterMap.mp member
  have sameText := Component.text_of_ofName? isPart
  have noSlash := slash_not_mem_of_mem_names inNames
  rw [Component.IsPart, sameText]
  exact ⟨isPart, noSlash⟩

section Reading

variable {part : Component}

theorem Component.IsPart.text_ne_nil (isPart : part.IsPart) : part.text ≠ [] := by
  intro empty
  have nothing := isPart.1
  rw [empty] at nothing
  cases nothing

theorem Component.IsPart.isAbsolute_text (isPart : part.IsPart) :
    isAbsolute part.text = false := by
  have proper : ∀ name ∈ [part.text], name ≠ [] ∧ '/' ∉ name := by
    intro name member
    rw [List.mem_singleton.mp member]
    exact ⟨isPart.text_ne_nil, isPart.2⟩
  simpa using isAbsolute_intercalate proper

theorem Component.IsPart.parts_text (isPart : part.IsPart) : parts part.text = [part] := by
  have whole : ∀ name ∈ [part.text], '/' ∉ name := by
    intro name member
    rw [List.mem_singleton.mp member]
    exact isPart.2
  have cut := parts_intercalate whole
  rw [List.intercalate_singleton] at cut
  rw [cut, List.filterMap_cons_some isPart.1, List.filterMap_nil]

theorem Component.IsPart.leading_text (isPart : part.IsPart) : leading part.text = [] := by
  obtain ⟨isPart, noSlash⟩ := isPart
  cases text : part.text with
  | nil => rfl
  | cons first rest =>
      rw [text] at isPart noSlash
      have firstNotSlash : first ≠ '/' := by
        rintro rfl
        exact noSlash List.mem_cons_self
      cases rest with
      | nil =>
          have notDot : first ≠ '.' := by
            rintro rfl
            cases isPart
          simp [leading, firstNotSlash, notDot]
      | cons second others =>
          have secondNotSlash : second ≠ '/' := by
            rintro rfl
            exact noSlash (List.mem_cons_of_mem first List.mem_cons_self)
          simp [leading, firstNotSlash, secondNotSlash]

theorem components_join_text (isPart : part.IsPart) (base : List Char) :
    components (join base part.text) = components base ++ [part] := by
  by_cases empty : base = []
  · subst empty
    have alone : join [] part.text = part.text := by
      rw [join, if_neg (by simp [isPart.isAbsolute_text])]
      rfl
    rw [alone, components_eq, isPart.leading_text, isPart.parts_text]
    rfl
  · rw [components_join empty isPart.isAbsolute_text, isPart.parts_text]

theorem ofComponents_concat (front : List Component) (part : Component) :
    ofComponents (front ++ [part]) = join (ofComponents front) part.text := by
  rw [ofComponents, List.foldl_append]
  rfl

theorem components_ofComponents {front behind : List Component}
    (readBack : components (ofComponents front) = front)
    (proper : ∀ part ∈ behind, part.IsPart) :
    components (ofComponents (front ++ behind)) = front ++ behind := by
  induction behind using List.reverseRecOn with
  | nil => rwa [List.append_nil]
  | append_singleton initial last inductionHypothesis =>
      have initialProper : ∀ part ∈ initial, part.IsPart := fun part member =>
        proper part (List.mem_append_left [last] member)
      have lastProper : last.IsPart := proper last (by simp)
      rw [← List.append_assoc, ofComponents_concat, components_join_text lastProper,
        inductionHypothesis initialProper]

end Reading

end EditionGuard.Path
