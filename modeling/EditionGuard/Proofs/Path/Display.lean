import EditionGuard.Proofs.Path.Join
import Mathlib.Data.List.TakeWhile

/-!
# When nothing is shown of a path

A path is shown without the base that it lies below.  Taking the components of the base away
leaves a text with exactly the remaining components, and a trimmed text is empty exactly if it
has none.  So the only paths of which nothing is shown are those of the base itself, and the
empty one.
-/

namespace EditionGuard.Path

/-- Whether a name between slashes is no component. -/
abbrev isNoPart (name : List Char) : Bool := (Component.ofName? name).isNone

def parts (text : List Char) : List Component := (names text).filterMap Component.ofName?

theorem components_eq (path : List Char) : components path = leading path ++ parts path := rfl

theorem slash_not_mem_of_mem_names {text name : List Char} (member : name ∈ names text) :
    '/' ∉ name :=
  Text.not_mem_of_mem_splitAt member

theorem slash_not_mem_of_names_eq_append {text : List Char} {front back : List (List Char)}
    (cut : names text = front ++ back) : ∀ name ∈ back, '/' ∉ name := by
  intro name member
  have listed : name ∈ names text := by
    rw [cut]
    exact List.mem_append_right front member
  exact slash_not_mem_of_mem_names listed

theorem parts_intercalate {way : List (List Char)} (whole : ∀ name ∈ way, '/' ∉ name) :
    parts (List.intercalate ['/'] way) = way.filterMap Component.ofName? := by
  by_cases empty : way = []
  · subst empty
    rfl
  · rw [parts, names_intercalate empty whole]

/-- What leads a path is at most one component, and the text behind its first character has the
other components of the path. -/
theorem leading_cases (path : List Char) :
    leading path = [] ∨
      ∃ first char rest, leading path = [first] ∧ path = char :: rest ∧
        parts rest = parts path := by
  unfold leading
  split
  · rename_i rest
    have behindSlash : names ('/' :: rest) = [] :: names rest := names_append_slash [] rest
    refine Or.inr ⟨.root, '/', rest, rfl, rfl, ?_⟩
    rw [parts, parts, behindSlash]
    rfl
  · exact Or.inr ⟨.current, '.', [], rfl, rfl, rfl⟩
  · rename_i rest
    have behindDot : names ('.' :: '/' :: rest) = ['.'] :: names rest :=
      names_append_slash ['.'] rest
    have behindSlash : names ('/' :: rest) = [] :: names rest := names_append_slash [] rest
    refine Or.inr ⟨.current, '.', '/' :: rest, rfl, rfl, ?_⟩
    rw [parts, parts, behindDot, behindSlash]
    rfl
  · exact Or.inl rfl

theorem filterMap_dropWhile_isNoPart (way : List (List Char)) :
    (way.dropWhile isNoPart).filterMap Component.ofName? =
      way.filterMap Component.ofName? := by
  induction way with
  | nil => rfl
  | cons name rest inductionHypothesis =>
      rw [List.dropWhile_cons]
      cases isPart : Component.ofName? name with
      | none =>
          rw [if_pos (by simp [isNoPart, isPart]), inductionHypothesis,
            List.filterMap_cons_none isPart]
      | some part => rw [if_neg (by simp [isNoPart, isPart])]

theorem parts_trimLeft (text : List Char) : parts (trimLeft text) = parts text := by
  have whole : ∀ name ∈ (names text).dropWhile isNoPart, '/' ∉ name := by
    intro name member
    exact slash_not_mem_of_mem_names ((List.dropWhile_sublist _).mem member)
  rw [trimLeft, parts_intercalate whole, filterMap_dropWhile_isNoPart]
  rfl

theorem trimRight_eq_nil_iff {text : List Char} :
    trimRight false text = [] ↔ parts text = [] := by
  have trimmed : trimRight false text =
      List.intercalate ['/'] ((names text).reverse.dropWhile isNoPart).reverse := rfl
  rw [trimmed, parts, List.filterMap_eq_nil_iff]
  cases kept : (names text).reverse.dropWhile isNoPart with
  | nil =>
      have allDropped := List.dropWhile_eq_nil_iff.mp kept
      refine iff_of_true rfl ?_
      intro name member
      exact Option.isNone_iff_eq_none.mp (allDropped name (List.mem_reverse.mpr member))
  | cons last front =>
      have isPart : isNoPart last = false := by
        have stops := List.head?_dropWhile_not isNoPart (names text).reverse
        simpa [kept] using stops
      have listed : last ∈ names text := by
        refine List.mem_reverse.mp ((List.dropWhile_sublist isNoPart).mem ?_)
        rw [kept]
        exact List.mem_cons_self
      refine iff_of_false ?_ ?_
      · intro nothing
        -- The last name is a part, so it is a text of its own that the whole ends in.
        have nonempty : last ≠ [] := by
          rintro rfl
          cases isPart
        have endsIn : last <:+ List.intercalate ['/'] (front.reverse ++ [last]) :=
          (suffix_intercalate_iff (slash_not_mem_of_mem_names listed) _ _).mpr
            (List.suffix_refl last)
        rw [List.reverse_cons] at nothing
        rw [nothing] at endsIn
        exact nonempty (List.suffix_nil.mp endsIn)
      · intro noneIsPart
        rw [isNoPart, noneIsPart last listed] at isPart
        cases isPart

theorem trimRight_start_eq_nil_iff {path : List Char} :
    trimRight true path = [] ↔ components path = [] := by
  have trimmed : trimRight true path =
      path.take (leading path).length ++ trimRight false (path.drop (leading path).length) := rfl
  rw [trimmed, components_eq, List.append_eq_nil_iff, List.append_eq_nil_iff,
    trimRight_eq_nil_iff]
  rcases leading_cases path with none | ⟨first, char, rest, isLeading, isPath, _⟩
  · simp [none]
  · rw [isLeading, isPath]
    simp

/-- Taking names away cuts a way behind so many parts. -/
theorem exists_go_eq_some {way : List (List Char)} {count : Nat}
    (enough : count ≤ (way.filterMap Component.ofName?).length) :
    ∃ front back, way = front ++ back ∧ (front.filterMap Component.ofName?).length = count ∧
      dropComponents.go way count = some (List.intercalate ['/'] back) := by
  induction way generalizing count with
  | nil =>
      obtain rfl : count = 0 := Nat.le_zero.mp enough
      exact ⟨[], [], rfl, rfl, rfl⟩
  | cons name rest inductionHypothesis =>
      cases count with
      | zero =>
          refine ⟨[], name :: rest, rfl, rfl, ?_⟩
          rw [dropComponents.go]
      | succ count =>
          rw [dropComponents.go]
          cases isPart : Component.ofName? name with
          | none =>
              rw [List.filterMap_cons_none isPart] at enough
              obtain ⟨front, back, rfl, taken, found⟩ := inductionHypothesis enough
              refine ⟨name :: front, back, rfl, ?_, found⟩
              rw [List.filterMap_cons_none isPart, taken]
          | some part =>
              rw [List.filterMap_cons_some isPart, List.length_cons] at enough
              obtain ⟨front, back, rfl, taken, found⟩ :=
                inductionHypothesis (Nat.le_of_succ_le_succ enough)
              refine ⟨name :: front, back, rfl, ?_, found⟩
              rw [List.filterMap_cons_some isPart, List.length_cons, taken]

/-- Taking names away cuts a text behind so many parts. -/
theorem exists_dropNames_eq {text : List Char} {count : Nat}
    (enough : count ≤ (parts text).length) :
    ∃ front back, names text = front ++ back ∧
      (front.filterMap Component.ofName?).length = count ∧
      dropComponents.dropNames count text = List.intercalate ['/'] back ∧
      back.filterMap Component.ofName? = (parts text).drop count := by
  obtain ⟨front, back, cut, taken, found⟩ := exists_go_eq_some enough
  refine ⟨front, back, cut, taken, ?_, ?_⟩
  · rw [dropComponents.dropNames, found, Option.getD_some]
  · rw [parts, cut, List.filterMap_append, ← taken, List.drop_left]

theorem parts_dropNames {text : List Char} {count : Nat} (enough : count ≤ (parts text).length) :
    parts (dropComponents.dropNames count text) = (parts text).drop count := by
  obtain ⟨front, back, cut, _, dropped, left⟩ := exists_dropNames_eq enough
  rw [dropped, parts_intercalate (slash_not_mem_of_names_eq_append cut), left]

theorem parts_dropComponents {path : List Char} {count : Nat}
    (enough : count + 1 ≤ (components path).length) :
    parts (dropComponents (count + 1) true path) = (components path).drop (count + 1) := by
  rw [components_eq, dropComponents] at *
  rcases leading_cases path with none | ⟨first, char, rest, isLeading, isPath, sameParts⟩
  · rw [none, List.nil_append] at enough ⊢
    exact parts_dropNames enough
  · rw [isLeading, List.singleton_append] at enough ⊢
    have behind : path.drop 1 = rest := by rw [isPath, List.drop_one, List.tail_cons]
    have enoughBehind : count ≤ (parts rest).length := by
      rw [sameParts]
      exact Nat.le_of_succ_le_succ enough
    simp only [behind, List.drop_succ_cons]
    rw [parts_dropNames enoughBehind, sameParts]

/-- Nothing follows a base in a path exactly if both have the same components. -/
theorem stripBase?_eq_some_nil_iff {path base : List Char} :
    stripBase? path base = some [] ↔ components path = components base := by
  rw [stripBase?]
  by_cases begins : (components path).take (components base).length = components base
  · simp only [if_pos begins]
    cases wanted : components base with
    | nil =>
        simp only [List.isEmpty_nil, if_true, Option.some.injEq]
        exact trimRight_start_eq_nil_iff
    | cons first others =>
        have enough : others.length + 1 ≤ (components path).length := by
          have length := congrArg List.length begins
          rw [wanted, List.length_take, List.length_cons] at length
          omega
        rw [wanted, List.length_cons] at begins
        simp only [List.isEmpty_cons, Bool.false_eq_true, if_false, Option.some.injEq,
          List.length_cons]
        rw [trimRight_eq_nil_iff, parts_trimLeft, parts_dropComponents enough,
          List.drop_eq_nil_iff]
        constructor
        · intro noMore
          rw [← begins, List.take_of_length_le noMore]
        · intro same
          rw [same, List.length_cons]
  · simp only [if_neg begins]
    refine iff_of_false (by simp) ?_
    intro same
    rw [same, List.take_length] at begins
    exact begins rfl

/-- Nothing is shown of the base itself and of the empty path, and something of all others. -/
theorem display_eq_nil_iff {path base : List Char} :
    display path base = [] ↔ path = [] ∨ components path = components base := by
  rw [display, List.map_eq_nil_iff]
  cases stripped : stripBase? path base with
  | none =>
      rw [Option.getD_none]
      refine (or_iff_left ?_).symm
      intro same
      rw [stripBase?_eq_some_nil_iff.mpr same] at stripped
      cases stripped
  | some rest =>
      rw [Option.getD_some, ← stripBase?_eq_some_nil_iff, stripped, Option.some.injEq]
      refine (or_iff_right_of_imp ?_).symm
      rintro rfl
      -- The empty path has no components, so only a base without any can be taken away.
      have noParts : components [] = [] := rfl
      rw [stripBase?, noParts, List.take_nil] at stripped
      by_cases noBase : [] = components base
      · rw [if_pos noBase, ← noBase] at stripped
        exact (Option.some.inj stripped).symm
      · rw [if_neg noBase] at stripped
        cases stripped

end EditionGuard.Path
