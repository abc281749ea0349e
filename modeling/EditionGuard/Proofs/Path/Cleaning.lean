import EditionGuard.Proofs.Path.Components

/-!
# Where cleaned paths lead

The components of a path, followed one after the other, lead somewhere: a name goes down, and a
parent takes back the last name or, where there is none, goes up.  Cleaning keeps the names and
whether the path starts at the top.  But it takes a kept parent back by the next one, so of the
folders that a path goes up only their parity stays: a cleaned path leads to the same place if and
only if the path goes up one folder at most.
-/

namespace EditionGuard.Path

/-- A place by the text of a path alone: from the top or from the current folder, up some folders,
and from there down some names. -/
structure Destination where
  fromTop : Bool
  ascents : Nat
  names : List (List Char)
deriving DecidableEq, Repr, Inhabited

namespace Destination

def start : Destination := ⟨false, 0, []⟩

/-- Goes on by one component.  A parent takes back the last name; where there is none it goes up a
folder, but not from the top. -/
def follow (place : Destination) : Component → Destination
  | .root => { place with fromTop := true }
  | .current => place
  | .parent =>
    if place.names = [] then
      if place.fromTop then place else { place with ascents := place.ascents + 1 }
    else { place with names := place.names.dropLast }
  | .normal name => { place with names := place.names ++ [name] }

/-- The place that is left when each two ascents cancel each other. -/
def cancelled (place : Destination) : Destination := { place with ascents := place.ascents % 2 }

theorem cancelled_eq_self_iff {place : Destination} :
    place.cancelled = place ↔ place.ascents ≤ 1 := by
  obtain ⟨fromTop, ascents, names⟩ := place
  simp only [cancelled, mk.injEq, true_and, and_true]
  omega

theorem follow_names (names : List (List Char)) (place : Destination) :
    (names.map Component.normal).foldl follow place =
      { place with names := place.names ++ names } := by
  induction names generalizing place with
  | nil => simp
  | cons name rest inductionHypothesis =>
      rw [List.map_cons, List.foldl_cons, inductionHypothesis]
      simp [follow]

end Destination

open Destination

/-- Where a path leads. -/
def destination (path : List Char) : Destination := (components path).foldl follow start

/-- What a cleaned list holds below its names.  Ascents show in it by their parity only; at the
top a parent that leads nowhere may be kept. -/
inductive IsBottom : Bool → Nat → List Component → Prop
  | here {ascents : Nat} : ascents % 2 = 0 → IsBottom false ascents []
  | above {ascents : Nat} : ascents % 2 = 1 → IsBottom false ascents [.parent]
  | top : IsBottom true 0 [.root]
  | beyondTop : IsBottom true 0 [.parent, .root]

/-- Whether a cleaned list, its last component first, tells the way to a place. -/
structure Traces (taken : List Component) (place : Destination) : Prop where
  shape : ∃ bottom, IsBottom place.fromTop place.ascents bottom ∧
    taken = (place.names.map Component.normal).reverse ++ bottom
  proper : ∀ name ∈ place.names, (Component.normal name).IsPart

variable {taken bottom : List Component} {place : Destination} {part : Component}
  {path : List Char}

private theorem IsBottom.traces (isBottom : IsBottom place.fromTop place.ascents bottom)
    (noNames : place.names = []) : Traces bottom place where
  shape := ⟨bottom, isBottom, by simp [noNames]⟩
  proper := by simp [noNames]

private theorem IsBottom.parent (isBottom : IsBottom place.fromTop place.ascents bottom)
    (noNames : place.names = []) :
    Traces (cleanStep bottom .parent) (place.follow .parent) := by
  obtain ⟨fromTop, ascents, names⟩ := place
  obtain rfl : names = [] := noNames
  cases isBottom with
  | here even =>
      have isEven : ascents % 2 = 0 := even
      have oneMore : (ascents + 1) % 2 = 1 := by omega
      exact IsBottom.traces (.above oneMore) rfl
  | above odd =>
      have isOdd : ascents % 2 = 1 := odd
      have oneMore : (ascents + 1) % 2 = 0 := by omega
      exact IsBottom.traces (.here oneMore) rfl
  | top => exact IsBottom.traces .beyondTop rfl
  | beyondTop => exact IsBottom.traces .top rfl

/-- A step of cleaning traces the step of the way. -/
theorem Traces.step (traces : Traces taken place) (isPart : part.IsPart) :
    Traces (cleanStep taken part) (place.follow part) := by
  obtain ⟨⟨bottom, isBottom, rfl⟩, proper⟩ := traces
  cases part with
  | root => cases isPart.1
  | current => cases isPart.1
  | normal name =>
      refine ⟨⟨bottom, isBottom, by simp [cleanStep, follow]⟩, ?_⟩
      intro other member
      rcases List.mem_append.mp member with earlier | isLast
      · exact proper other earlier
      · rwa [List.mem_singleton.mp isLast]
  | parent =>
      rcases List.eq_nil_or_concat place.names with noNames | ⟨front, last, someNames⟩
      · simpa [noNames] using isBottom.parent noNames
      · rw [List.concat_eq_append] at someNames
        have followed : place.follow .parent = { place with names := front } := by
          simp [follow, someNames]
        rw [followed]
        refine ⟨⟨bottom, isBottom, by simp [someNames, cleanStep]⟩, ?_⟩
        intro other member
        exact proper other (by rw [someNames]; exact List.mem_append_left [last] member)

theorem Traces.foldl (traces : Traces taken place) {more : List Component}
    (proper : ∀ part ∈ more, part.IsPart) :
    Traces (more.foldl cleanStep taken) (more.foldl follow place) := by
  induction more generalizing taken place with
  | nil => exact traces
  | cons part rest inductionHypothesis =>
      have headProper : part.IsPart := proper part List.mem_cons_self
      have restProper : ∀ other ∈ rest, other.IsPart := fun other member =>
        proper other (List.mem_cons_of_mem part member)
      exact inductionHypothesis (traces.step headProper) restProper

theorem traces_leading (path : List Char) :
    Traces ((leading path).foldl cleanStep []) ((leading path).foldl follow start) := by
  unfold leading
  split
  · exact IsBottom.traces .top rfl
  · exact IsBottom.traces (.here rfl) rfl
  · exact IsBottom.traces (.here rfl) rfl
  · exact IsBottom.traces (.here rfl) rfl

theorem traces_destination (path : List Char) :
    Traces ((components path).foldl cleanStep []) (destination path) := by
  have proper : ∀ part ∈ parts path, part.IsPart := fun _ member => isPart_of_mem_parts member
  have afterLeading := (traces_leading path).foldl proper
  rw [destination, components_eq, List.foldl_append, List.foldl_append]
  exact afterLeading

private theorem IsBottom.exists_readBack {fromTop : Bool} {ascents : Nat}
    (isBottom : IsBottom fromTop ascents bottom) :
    ∃ front behind, bottom.reverse = front ++ behind ∧
      components (ofComponents front) = front ∧ ∀ part ∈ behind, part.IsPart := by
  have parentOnly : ∀ part ∈ [Component.parent], part.IsPart := by
    intro part member
    rw [List.mem_singleton.mp member]
    exact Component.isPart_parent
  cases isBottom with
  | here => exact ⟨[], [], rfl, rfl, by simp⟩
  | above => exact ⟨[], [.parent], rfl, rfl, parentOnly⟩
  | top => exact ⟨[.root], [], rfl, rfl, by simp⟩
  | beyondTop => exact ⟨[.root], [.parent], rfl, rfl, parentOnly⟩

theorem Traces.components_reverse (traces : Traces taken place) :
    components (ofComponents taken.reverse) = taken.reverse := by
  obtain ⟨⟨bottom, isBottom, rfl⟩, proper⟩ := traces
  obtain ⟨front, behind, isReverse, readBack, behindProper⟩ := isBottom.exists_readBack
  rw [List.reverse_append, List.reverse_reverse, isReverse, List.append_assoc]
  refine components_ofComponents readBack ?_
  intro part member
  rcases List.mem_append.mp member with inBehind | isName
  · exact behindProper part inBehind
  · obtain ⟨name, inNames, rfl⟩ := List.mem_map.mp isName
    exact proper name inNames

private theorem IsBottom.follow_reverse (isBottom : IsBottom place.fromTop place.ascents bottom) :
    bottom.reverse.foldl follow start = { place.cancelled with names := [] } := by
  obtain ⟨fromTop, ascents, names⟩ := place
  cases isBottom with
  | here even => simp [cancelled, start, even]
  | above odd => simp [cancelled, start, follow, odd]
  | top => rfl
  | beyondTop => rfl

/-- Following a list that tells the way to a place leads there, but for ascents that cancel. -/
theorem Traces.follow_reverse (traces : Traces taken place) :
    taken.reverse.foldl follow start = place.cancelled := by
  obtain ⟨⟨bottom, isBottom, rfl⟩, _⟩ := traces
  rw [List.reverse_append, List.reverse_reverse, List.foldl_append, isBottom.follow_reverse,
    follow_names]
  rfl

theorem components_clean (path : List Char) : components (clean path) = cleanComponents path :=
  (traces_destination path).components_reverse

/-- A cleaned path leads where the path leads, once each two ascents have cancelled. -/
theorem destination_clean (path : List Char) :
    destination (clean path) = (destination path).cancelled := by
  rw [destination, components_clean]
  exact (traces_destination path).follow_reverse

theorem follow_fromTop (isPart : part.IsPart) :
    (place.follow part).fromTop = place.fromTop := by
  cases part with
  | root => cases isPart.1
  | current => rfl
  | normal name => rfl
  | parent =>
      simp only [follow]
      split
      · split <;> rfl
      · rfl

theorem foldl_follow_fromTop {more : List Component} (proper : ∀ part ∈ more, part.IsPart) :
    (more.foldl follow place).fromTop = place.fromTop := by
  induction more generalizing place with
  | nil => rfl
  | cons part rest inductionHypothesis =>
      have restProper : ∀ other ∈ rest, other.IsPart := fun other member =>
        proper other (List.mem_cons_of_mem part member)
      rw [List.foldl_cons, inductionHypothesis restProper,
        follow_fromTop (proper part List.mem_cons_self)]

theorem destination_fromTop (path : List Char) :
    (destination path).fromTop = isAbsolute path := by
  rw [destination, components_eq, List.foldl_append,
    foldl_follow_fromTop fun _ member => isPart_of_mem_parts member]
  unfold leading
  split
  · rfl
  · rfl
  · rfl
  · rename_i notRoot _ _
    cases path with
    | nil => rfl
    | cons first rest =>
        have notSlash : first ≠ '/' := by
          rintro rfl
          exact notRoot rest rfl
        simp [isAbsolute, start, notSlash]

theorem destination_ascents_of_isAbsolute (absolute : isAbsolute path = true) :
    (destination path).ascents = 0 := by
  obtain ⟨⟨bottom, isBottom, _⟩, _⟩ := traces_destination path
  rw [destination_fromTop, absolute] at isBottom
  generalize (destination path).ascents = ascents at isBottom ⊢
  cases isBottom with
  | top => rfl
  | beyondTop => rfl

theorem destination_clean_eq_iff :
    destination (clean path) = destination path ↔ (destination path).ascents ≤ 1 := by
  rw [destination_clean, cancelled_eq_self_iff]

theorem destination_clean_of_isAbsolute (absolute : isAbsolute path = true) :
    destination (clean path) = destination path := by
  rw [destination_clean_eq_iff, destination_ascents_of_isAbsolute absolute]
  exact Nat.zero_le 1

end EditionGuard.Path
