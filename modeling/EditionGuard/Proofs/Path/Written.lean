import EditionGuard.Proofs.Path.Stripping

/-!
# Paths as they are written

Parts are written one behind the other with a slash between each two, and one in front of them if
they start at the top.  A path that is written so has no other slashes, joining it with a part
writes the part behind it, and the path above it is the one without its last part.
-/

namespace EditionGuard.Path

/-- Names written with slashes between them, from the top or not. -/
def written (fromTop : Bool) (way : List (List Char)) : List Char :=
  if fromTop then '/' :: List.intercalate ['/'] way else List.intercalate ['/'] way

/-- What the parts of a path begin with, from the top or not. -/
def top (fromTop : Bool) : List Component := if fromTop then [.root] else []

section Writing

variable (fromTop : Bool) {way : List (List Char)}

theorem names_written (nonempty : way ≠ []) (whole : ∀ name ∈ way, '/' ∉ name) :
    names (written fromTop way) = (if fromTop then [[]] else []) ++ way := by
  cases fromTop with
  | false => exact names_intercalate nonempty whole
  | true =>
      have behindSlash : names (written true way) = [] :: names (List.intercalate ['/'] way) :=
        names_append_slash [] _
      rw [behindSlash, names_intercalate nonempty whole]
      rfl

theorem parts_written (whole : ∀ name ∈ way, '/' ∉ name) :
    parts (written fromTop way) = way.filterMap Component.ofName? := by
  cases fromTop with
  | false => exact parts_intercalate whole
  | true => exact (parts_slash _).trans (parts_intercalate whole)

theorem written_append {front : List (List Char)} (someFront : front ≠ []) (someWay : way ≠ []) :
    written fromTop (front ++ way) =
      written fromTop front ++ '/' :: List.intercalate ['/'] way := by
  cases fromTop with
  | false => exact intercalate_append someFront someWay
  | true => exact congrArg ('/' :: ·) (intercalate_append someFront someWay)

theorem trimRight_written (headPart : fromTop = false → ∀ name ∈ way.head?, isNoPart name = false)
    (whole : ∀ name ∈ way, '/' ∉ name) :
    trimRight true (written fromTop way) = written fromTop (way.rdropWhile isNoPart) := by
  cases fromTop with
  | true => exact congrArg ('/' :: ·) (trimRight_intercalate whole)
  | false =>
      have notLed : leading (List.intercalate ['/'] way) = [] := by
        cases way with
        | nil => rfl
        | cons name others =>
            exact leading_intercalate (headPart rfl name rfl) (whole name List.mem_cons_self)
      exact (trimRight_of_not_led notLed).trans (trimRight_intercalate whole)

end Writing

/-- Whether no name of a path is a dot, and none but the first is empty. -/
structure IsTidy (path : List Char) : Prop where
  noDot : ['.'] ∉ names path
  noEmptyName : [] ∉ (names path).tail

namespace IsTidy

variable {path : List Char}

private theorem empty_mem_tail (path : List Char) (behind : List (List Char)) :
    [] ∈ (names path ++ [] :: behind).tail := by
  rw [List.tail_append_of_ne_nil (names_ne_nil path)]
  exact List.mem_append_right _ List.mem_cons_self

theorem noRepeatedSlash (tidy : IsTidy path) : ¬ ['/', '/'] <:+: path := by
  rintro ⟨front, behind, rfl⟩
  have cut : names (front ++ ['/', '/'] ++ behind) = names front ++ [] :: names behind := by
    rw [List.append_assoc, List.cons_append, names_append_slash]
    exact congrArg (names front ++ ·) (names_append_slash [] behind)
  have emptyName := empty_mem_tail front (names behind)
  rw [← cut] at emptyName
  exact tidy.noEmptyName emptyName

theorem getLast?_ne (tidy : IsTidy path) : path.getLast? ≠ some '/' := by
  intro slash
  have noName : names [] = [[]] := rfl
  have cut : names path = names (withoutFinalSlash path) ++ [[]] := by
    conv => lhs; rw [eq_withoutFinalSlash_append slash, names_append_slash, noName]
  have emptyName := empty_mem_tail (withoutFinalSlash path) []
  rw [← cut] at emptyName
  exact tidy.noEmptyName emptyName

end IsTidy

section Parts

variable (fromTop : Bool) {behind : List Component} {part : Component}

theorem Component.IsPart.isNoPart_text (isPart : part.IsPart) : isNoPart part.text = false := by
  rw [isNoPart, isPart.1]
  rfl

theorem Component.IsPart.text_ne_dot (isPart : part.IsPart) : part.text ≠ ['.'] := by
  intro dot
  have nothing := isPart.1
  rw [dot] at nothing
  cases nothing

theorem Component.slash_not_mem_texts (proper : ∀ part ∈ behind, part.IsPart) :
    ∀ name ∈ behind.map text, '/' ∉ name := by
  intro name member
  obtain ⟨part, inBehind, rfl⟩ := List.mem_map.mp member
  exact (proper part inBehind).2

theorem Component.filterMap_ofName?_texts (proper : ∀ part ∈ behind, part.IsPart) :
    (behind.map text).filterMap ofName? = behind := by
  induction behind with
  | nil => rfl
  | cons part rest inductionHypothesis =>
      have restProper : ∀ other ∈ rest, other.IsPart := fun other member =>
        proper other (List.mem_cons_of_mem part member)
      rw [List.map_cons, List.filterMap_cons_some (proper part List.mem_cons_self).1,
        inductionHypothesis restProper]

theorem parts_written_texts (proper : ∀ part ∈ behind, part.IsPart) :
    parts (written fromTop (behind.map Component.text)) = behind := by
  rw [parts_written fromTop (Component.slash_not_mem_texts proper),
    Component.filterMap_ofName?_texts proper]

/-- What is written of parts is tidy, unless it is the root alone. -/
theorem isTidy_written (proper : ∀ part ∈ behind, part.IsPart)
    (notRoot : behind ≠ [] ∨ fromTop = false) :
    IsTidy (written fromTop (behind.map Component.text)) := by
  by_cases nothing : behind = []
  · obtain rfl := notRoot.resolve_left (not_not.mpr nothing)
    rw [nothing]
    exact ⟨by decide, by decide⟩
  · have someText : behind.map Component.text ≠ [] := by simpa using nothing
    have isNames := names_written fromTop someText
      (Component.slash_not_mem_texts proper)
    have notDot : ['.'] ∉ behind.map Component.text := by
      rintro member
      obtain ⟨part, inBehind, isDot⟩ := List.mem_map.mp member
      exact (proper part inBehind).text_ne_dot isDot
    have notEmpty : [] ∉ behind.map Component.text := by
      rintro member
      obtain ⟨part, inBehind, isEmpty⟩ := List.mem_map.mp member
      exact (proper part inBehind).text_ne_nil isEmpty
    constructor
    · rw [isNames]
      cases fromTop with
      | false => simpa using notDot
      | true => simpa using notDot
    · rw [isNames]
      cases fromTop with
      | false => exact fun inTail => notEmpty (List.mem_of_mem_tail inTail)
      | true => exact notEmpty

theorem join_written (proper : ∀ part ∈ behind, part.IsPart) (isPart : part.IsPart) :
    join (written fromTop (behind.map Component.text)) part.text =
      written fromTop ((behind ++ [part]).map Component.text) := by
  have relative := isPart.isAbsolute_text
  by_cases nothing : behind = []
  · subst nothing
    rw [join, if_neg (by simp [relative])]
    cases fromTop <;> simp [written]
  · have someText : behind.map Component.text ≠ [] := by simpa using nothing
    have tidy := isTidy_written fromTop proper (Or.inl nothing)
    have someChar : written fromTop (behind.map Component.text) ≠ [] := by
      intro empty
      have noParts : parts [] = [] := rfl
      have readBack := parts_written_texts fromTop proper
      rw [empty, noParts] at readBack
      exact nothing readBack.symm
    rw [join_eq_append someChar relative, withoutFinalSlash, if_neg tidy.getLast?_ne,
      List.map_append, written_append fromTop someText (by simp), List.map_singleton,
      List.intercalate_singleton]

theorem ofComponents_eq_written (proper : ∀ part ∈ behind, part.IsPart) :
    ofComponents (top fromTop ++ behind) = written fromTop (behind.map Component.text) := by
  induction behind using List.reverseRecOn with
  | nil => cases fromTop <;> rfl
  | append_singleton initial last inductionHypothesis =>
      have initialProper : ∀ part ∈ initial, part.IsPart := fun part member =>
        proper part (List.mem_append_left [last] member)
      rw [← List.append_assoc, ofComponents_concat, inductionHypothesis initialProper,
        join_written fromTop initialProper (proper last (by simp))]

end Parts

section Above

variable (fromTop : Bool) {behind : List Component} {part : Component}

theorem reverse_dropWhile_ne_slash {name : List Char} (noSlash : '/' ∉ name)
    (front : List Char) :
    ((front ++ '/' :: name).reverse.dropWhile (· != '/')).reverse = front ++ ['/'] := by
  have noSlashBack : '/' ∉ name.reverse := by simpa using noSlash
  rw [List.reverse_append, List.reverse_cons, List.append_assoc,
    Text.dropWhile_ne_append noSlashBack]
  simp

theorem isNoPart_of_mem_texts (proper : ∀ part ∈ behind, part.IsPart) :
    ∀ name ∈ behind.map Component.text, isNoPart name = false := by
  intro name member
  obtain ⟨part, inBehind, rfl⟩ := List.mem_map.mp member
  exact (proper part inBehind).isNoPart_text

theorem rdropWhile_texts (proper : ∀ part ∈ behind, part.IsPart) :
    (behind.map Component.text).rdropWhile isNoPart = behind.map Component.text := by
  rw [List.rdropWhile_eq_self_iff]
  intro nonempty
  rw [isNoPart_of_mem_texts proper _ (List.getLast_mem nonempty)]
  exact Bool.false_ne_true

theorem trimRight_written_texts (proper : ∀ part ∈ behind, part.IsPart) :
    trimRight true (written fromTop (behind.map Component.text)) =
      written fromTop (behind.map Component.text) := by
  have headPart : ∀ name ∈ (behind.map Component.text).head?, isNoPart name = false :=
    fun name first => isNoPart_of_mem_texts proper name (List.mem_of_mem_head? first)
  rw [trimRight_written fromTop (fun _ => headPart) (Component.slash_not_mem_texts proper),
    rdropWhile_texts proper]

/-- Trimming takes a slash away that follows the parts of a path. -/
theorem trimRight_written_slash (proper : ∀ part ∈ behind, part.IsPart) (nonempty : behind ≠ []) :
    trimRight true (written fromTop (behind.map Component.text) ++ ['/']) =
      written fromTop (behind.map Component.text) := by
  have someText : behind.map Component.text ≠ [] := by simpa using nonempty
  have withEmptyName : written fromTop (behind.map Component.text) ++ ['/'] =
      written fromTop (behind.map Component.text ++ [[]]) := by
    rw [written_append fromTop someText (by simp), List.intercalate_singleton]
  have headPart : ∀ name ∈ (behind.map Component.text ++ [[]]).head?, isNoPart name = false := by
    intro name first
    rw [List.head?_append_of_ne_nil _ someText] at first
    exact isNoPart_of_mem_texts proper name (List.mem_of_mem_head? first)
  have whole : ∀ name ∈ behind.map Component.text ++ [[]], '/' ∉ name := by
    intro name member
    rcases List.mem_append.mp member with inTexts | isEmpty
    · exact Component.slash_not_mem_texts proper name inTexts
    · rw [List.mem_singleton.mp isEmpty]
      exact List.not_mem_nil
  rw [withEmptyName, trimRight_written fromTop (fun _ => headPart) whole,
    List.rdropWhile_concat_pos _ _ _ rfl, rdropWhile_texts proper]

/-- What stands before the last part of a path, without the slash that follows it. -/
theorem trimRight_before_last (proper : ∀ part ∈ behind, part.IsPart) (isPart : part.IsPart) :
    trimRight true ((written fromTop
      ((behind ++ [part]).map Component.text)).reverse.dropWhile (· != '/')).reverse =
        written fromTop (behind.map Component.text) := by
  by_cases nothing : behind = []
  · subst nothing
    cases fromTop with
    | false =>
        have noSlashBack : '/' ∉ part.text.reverse := by simpa using isPart.2
        simp only [written, List.nil_append, List.map_singleton, List.intercalate_singleton,
          Bool.false_eq_true, if_false, Text.dropWhile_ne_of_not_mem noSlashBack]
        rfl
    | true =>
        have isRoot := reverse_dropWhile_ne_slash isPart.2 []
        simp only [written, List.nil_append, List.map_singleton, List.intercalate_singleton,
          if_true] at isRoot ⊢
        rw [isRoot]
        rfl
  · have someText : behind.map Component.text ≠ [] := by simpa using nothing
    rw [List.map_append, written_append fromTop someText (by simp), List.map_singleton,
      List.intercalate_singleton, reverse_dropWhile_ne_slash isPart.2,
      trimRight_written_slash fromTop proper nothing]

/-- Above a path lies the path without its last part. -/
theorem parent?_written_concat (proper : ∀ part ∈ behind, part.IsPart) (isPart : part.IsPart) :
    parent? (written fromTop ((behind ++ [part]).map Component.text)) =
      some (written fromTop (behind.map Component.text)) := by
  have allProper : ∀ other ∈ behind ++ [part], other.IsPart := by
    intro other member
    rcases List.mem_append.mp member with inBehind | isLast
    · exact proper other inBehind
    · rwa [List.mem_singleton.mp isLast]
  have isLast : (components (written fromTop ((behind ++ [part]).map Component.text))).getLast? =
      some part := by
    rw [components_eq, parts_written_texts fromTop allProper, ← List.append_assoc, List.getLast?_concat]
  have above := trimRight_before_last fromTop proper isPart
  rw [parent?, isLast, trimRight_written_texts fromTop allProper]
  cases part with
  | root => cases isPart.1
  | current => cases isPart.1
  | parent => exact congrArg some above
  | normal name => exact congrArg some above

end Above

end EditionGuard.Path
