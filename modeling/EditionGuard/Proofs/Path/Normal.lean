import EditionGuard.Proofs.Path.Cleaning
import EditionGuard.Proofs.Path.Written

/-!
# The form of cleaned paths

A cleaned path is a root at most, then a parent at most, then names, written with one slash between
each two.  So it has no dots, no repeated slashes and no slash at its end, and it goes up before it
goes down.  Cleaning such a list of parts again takes every one of them as it is.

The same path results if the parts are taken onto a text: a parent takes the last part of the text
away where there is one, also another parent, and every other part is joined to it.
-/

namespace EditionGuard.Path

/-- Whether a path is written in normal form: only the root alone ends in a slash, and parents
stand before all names. -/
structure IsNormal (path : List Char) : Prop where
  noDot : ['.'] ∉ names path
  noCurrent : .current ∉ components path
  noRepeatedSlash : ¬ ['/', '/'] <:+: path
  finalSlash : path.getLast? = some '/' → path = ['/']
  parentsFirst : (components path).Pairwise fun earlier later =>
    later = .parent → ∀ name, earlier ≠ .normal name

/-- Takes a component onto the text of a path.  A parent takes back the path above, where there is
one. -/
def takeOnto (text : List Char) : Component → List Char
  | .current => text
  | .parent => (parent? text).getD (join text Component.parent.text)
  | part => join text part.text

/-- Whether parts go up one folder at most, and then down some names. -/
structure IsCleaned (fromTop : Bool) (parts : List Component) (ascents : Nat)
    (way : List (List Char)) : Prop where
  parts_eq : parts = top fromTop ++ (List.replicate ascents .parent ++ way.map .normal)
  ascents_le : ascents ≤ 1
  proper : ∀ name ∈ way, (Component.normal name).IsPart

theorem Traces.exists_isCleaned {taken : List Component} {place : Destination}
    (traces : Traces taken place) :
    ∃ ascents, IsCleaned place.fromTop taken.reverse ascents place.names := by
  obtain ⟨⟨bottom, isBottom, rfl⟩, proper⟩ := traces
  obtain ⟨fromTop, ascents, names⟩ := place
  -- Of the ascents to the place at most one is left in the list.
  suffices ∃ kept, bottom.reverse = top fromTop ++ List.replicate kept .parent ∧ kept ≤ 1 by
    obtain ⟨kept, isReverse, atMostOne⟩ := this
    refine ⟨kept, ?_, atMostOne, proper⟩
    rw [List.reverse_append, List.reverse_reverse, isReverse, List.append_assoc]
  cases isBottom with
  | here => exact ⟨0, rfl, by decide⟩
  | above => exact ⟨1, rfl, by decide⟩
  | top => exact ⟨0, rfl, by decide⟩
  | beyondTop => exact ⟨1, rfl, by decide⟩

theorem foldl_cleanStep_names (way : List (List Char)) (taken : List Component) :
    (way.map .normal).foldl cleanStep taken = (way.map .normal).reverse ++ taken := by
  induction way generalizing taken with
  | nil => rfl
  | cons name rest inductionHypothesis =>
      rw [List.map_cons, List.foldl_cons, inductionHypothesis, List.reverse_cons,
        List.append_assoc]
      rfl

namespace IsCleaned

variable {fromTop : Bool} {parts : List Component} {ascents : Nat} {way : List (List Char)}

theorem isPart (cleaned : IsCleaned fromTop parts ascents way) :
    ∀ part ∈ List.replicate ascents Component.parent ++ way.map .normal, part.IsPart := by
  intro part member
  rcases List.mem_append.mp member with isParent | isName
  · rw [List.eq_of_mem_replicate isParent]
    exact Component.isPart_parent
  · obtain ⟨name, inWay, rfl⟩ := List.mem_map.mp isName
    exact cleaned.proper name inWay

theorem eq_root_or_isTidy (cleaned : IsCleaned fromTop parts ascents way) :
    ofComponents parts = ['/'] ∨ IsTidy (ofComponents parts) := by
  rw [cleaned.parts_eq, ofComponents_eq_written fromTop cleaned.isPart]
  by_cases nothing : List.replicate ascents Component.parent ++ way.map .normal = []
  · rw [nothing]
    cases fromTop with
    | false => exact Or.inr (isTidy_written false (List.forall_mem_nil _) (Or.inr rfl))
    | true => exact Or.inl rfl
  · exact Or.inr (isTidy_written fromTop cleaned.isPart (Or.inl nothing))

theorem noCurrent (cleaned : IsCleaned fromTop parts ascents way) : .current ∉ parts := by
  rw [cleaned.parts_eq, List.mem_append]
  rintro (inTop | below)
  · cases fromTop with
    | false => cases inTop
    | true => cases List.mem_singleton.mp inTop
  · cases (cleaned.isPart .current below).1

theorem not_name_of_mem {part : Component}
    (member : part ∈ top fromTop ++ List.replicate ascents Component.parent) (name : List Char) :
    part ≠ .normal name := by
  rcases List.mem_append.mp member with inTop | isParent
  · cases fromTop with
    | false => cases inTop
    | true =>
        rw [List.mem_singleton.mp inTop]
        nofun
  · rw [List.eq_of_mem_replicate isParent]
    nofun

theorem parentsFirst (cleaned : IsCleaned fromTop parts ascents way) :
    parts.Pairwise fun earlier later => later = .parent → ∀ name, earlier ≠ .normal name := by
  rw [cleaned.parts_eq, ← List.append_assoc, List.pairwise_append]
  refine ⟨?_, ?_, ?_⟩
  · exact List.pairwise_of_forall_mem_list fun _ member _ _ _ => not_name_of_mem member
  · refine List.pairwise_of_forall_mem_list fun _ _ later member isParent => ?_
    obtain ⟨_, _, isName⟩ := List.mem_map.mp member
    cases isName.trans isParent
  · exact fun _ member _ _ _ => not_name_of_mem member

theorem foldl_cleanStep (cleaned : IsCleaned fromTop parts ascents way) :
    parts.foldl cleanStep [] = parts.reverse := by
  have above : (top fromTop ++ List.replicate ascents Component.parent).foldl cleanStep [] =
      (top fromTop ++ List.replicate ascents Component.parent).reverse := by
    rcases Nat.le_one_iff_eq_zero_or_eq_one.mp cleaned.ascents_le with rfl | rfl
    · cases fromTop <;> rfl
    · cases fromTop <;> rfl
  rw [cleaned.parts_eq, ← List.append_assoc, List.foldl_append, above, foldl_cleanStep_names,
    ← List.reverse_append]

/-- The text of a cleaned list is in normal form, if the list is read back from it. -/
theorem isNormal (cleaned : IsCleaned fromTop parts ascents way)
    (readBack : components (ofComponents parts) = parts) : IsNormal (ofComponents parts) := by
  have noCurrent : .current ∉ components (ofComponents parts) := by
    rw [readBack]
    exact cleaned.noCurrent
  have parentsFirst : (components (ofComponents parts)).Pairwise fun earlier later =>
      later = .parent → ∀ name, earlier ≠ .normal name := by
    rw [readBack]
    exact cleaned.parentsFirst
  rcases cleaned.eq_root_or_isTidy with isRoot | tidy
  · refine ⟨?_, noCurrent, ?_, fun _ => isRoot, parentsFirst⟩
    · rw [isRoot]
      decide
    · rw [isRoot]
      decide
  · exact ⟨tidy.noDot, noCurrent, tidy.noRepeatedSlash,
      fun slash => absurd slash tidy.getLast?_ne, parentsFirst⟩

end IsCleaned

section OnText

variable {taken : List Component} {place : Destination} {part : Component}

theorem cleanStep_parent_cons (isPart : part.IsPart) (rest : List Component) :
    cleanStep (part :: rest) .parent = rest := by
  cases part with
  | root => cases isPart.1
  | current => cases isPart.1
  | parent => rfl
  | normal name => rfl

theorem Traces.takeOnto_parent (traces : Traces taken place) :
    takeOnto (ofComponents taken.reverse) .parent =
      ofComponents (cleanStep taken .parent).reverse := by
  obtain ⟨ascents, cleaned⟩ := traces.exists_isCleaned
  rcases List.eq_nil_or_concat (List.replicate ascents Component.parent ++
    place.names.map .normal) with nothing | ⟨initial, last, isConcat⟩
  · have isTop : taken = top place.fromTop := by
      rw [← List.reverse_inj, cleaned.parts_eq, nothing, List.append_nil]
      cases place.fromTop <;> rfl
    rw [isTop]
    cases place.fromTop <;> rfl
  · rw [List.concat_eq_append] at isConcat
    have proper := cleaned.isPart
    rw [isConcat] at proper
    have initialProper : ∀ part ∈ initial, part.IsPart := fun part member =>
      proper part (List.mem_append_left [last] member)
    have lastProper : last.IsPart := proper last (by simp)
    have isTaken : taken = last :: (top place.fromTop ++ initial).reverse := by
      rw [← List.reverse_inj, cleaned.parts_eq, isConcat]
      simp
    rw [isTaken, cleanStep_parent_cons lastProper, List.reverse_cons, List.reverse_reverse,
      List.append_assoc, ofComponents_eq_written _ proper, takeOnto,
      parent?_written_concat _ initialProper lastProper, Option.getD_some,
      ofComponents_eq_written _ initialProper]

theorem Traces.takeOnto_step (traces : Traces taken place) (isPart : part.IsPart) :
    takeOnto (ofComponents taken.reverse) part = ofComponents (cleanStep taken part).reverse := by
  cases part with
  | root => cases isPart.1
  | current => cases isPart.1
  | parent => exact traces.takeOnto_parent
  | normal name =>
      have isConcat : (cleanStep taken (.normal name)).reverse = taken.reverse ++ [.normal name] :=
        List.reverse_cons
      rw [isConcat, ofComponents_concat]
      rfl

theorem Traces.foldl_takeOnto (traces : Traces taken place) {more : List Component}
    (proper : ∀ part ∈ more, part.IsPart) :
    more.foldl takeOnto (ofComponents taken.reverse) =
      ofComponents (more.foldl cleanStep taken).reverse := by
  induction more generalizing taken place with
  | nil => rfl
  | cons part rest inductionHypothesis =>
      have headProper : part.IsPart := proper part List.mem_cons_self
      have restProper : ∀ other ∈ rest, other.IsPart := fun other member =>
        proper other (List.mem_cons_of_mem part member)
      rw [List.foldl_cons, List.foldl_cons, traces.takeOnto_step headProper,
        inductionHypothesis (traces.step headProper) restProper]

/-- A path is cleaned by taking its components onto the empty text. -/
theorem foldl_takeOnto_components (path : List Char) :
    (components path).foldl takeOnto [] = clean path := by
  have proper : ∀ part ∈ parts path, part.IsPart := fun _ member => isPart_of_mem_parts member
  have isLead : (leading path).foldl takeOnto [] =
      ofComponents ((leading path).foldl cleanStep []).reverse := by
    unfold leading
    split <;> rfl
  rw [clean, cleanComponents, components_eq, List.foldl_append, List.foldl_append, isLead,
    (traces_leading path).foldl_takeOnto proper]

end OnText

/-- A cleaned path is what is left when the components of the path are taken onto a text one after
the other.  It is in normal form, stays as it is when it is cleaned again, and starts at the top if
and only if the path does. -/
theorem clean_isNormal (path : List Char) :
    clean path = (components path).foldl takeOnto [] ∧ IsNormal (clean path) ∧
      clean (clean path) = clean path ∧ isAbsolute (clean path) = isAbsolute path := by
  obtain ⟨ascents, cleaned⟩ := (traces_destination path).exists_isCleaned
  refine ⟨(foldl_takeOnto_components path).symm, cleaned.isNormal (components_clean path), ?_, ?_⟩
  · have again : (cleanComponents path).foldl cleanStep [] = (cleanComponents path).reverse :=
      cleaned.foldl_cleanStep
    rw [clean, cleanComponents, components_clean, again, List.reverse_reverse, ← clean]
  · rw [← destination_fromTop, destination_clean, ← destination_fromTop]
    rfl

example : clean "/a/.//b/../../../c/".toList = "/../c".toList := by decide +kernel

end EditionGuard.Path
