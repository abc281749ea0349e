import EditionGuard.Proofs.Path.Components
import EditionGuard.Proofs.Path.Extension
import Mathlib.Data.List.DropRight

/-!
# What is left of a path below a base

A base is taken away from exactly the paths whose components begin with those of the base, and
what is left has the other components.  Its text is a piece of the path as it was written: the
names between the first and the last component that are left.  So a path that was joined from a
base and some names is shown by these names again, however the base is written.
-/

namespace EditionGuard.Path

/-! ## Names that are no parts -/

theorem ofName?_eq_none_iff {name : List Char} :
    Component.ofName? name = none ↔ name = [] ∨ name = ['.'] := by
  fun_cases Component.ofName? name with
  | case1 => simp
  | case2 => simp
  | case3 => simp
  | case4 name notEmpty notDot => exact iff_of_false (by simp) (not_or.mpr ⟨notEmpty, notDot⟩)

theorem leading_eq_nil_or (path : List Char) :
    leading path = [] ∨ path = ['.'] ∨
      ∃ head rest, (head = [] ∨ head = ['.']) ∧ path = head ++ '/' :: rest := by
  unfold leading
  split
  · next rest => exact Or.inr (Or.inr ⟨[], rest, Or.inl rfl, rfl⟩)
  · exact Or.inr (Or.inl rfl)
  · next rest => exact Or.inr (Or.inr ⟨['.'], rest, Or.inr rfl, rfl⟩)
  · exact Or.inl rfl

/-- The first name of a path is a part, unless a component leads the path or it is empty. -/
theorem isNoPart_head_eq_false {path name : List Char} {others : List (List Char)}
    (notLed : leading path = []) (nonempty : path ≠ []) (cut : names path = name :: others) :
    isNoPart name = false := by
  have whole := intercalate_names path
  rw [cut] at whole
  refine Bool.eq_false_iff.mpr fun noPart => ?_
  rcases ofName?_eq_none_iff.mp (Option.isNone_iff_eq_none.mp noPart) with rfl | rfl
  · cases others with
    | nil => exact nonempty whole.symm
    | cons next rest =>
        rw [← whole, List.intercalate_cons_cons] at notLed
        cases notLed
  · cases others with
    | nil =>
        rw [← whole] at notLed
        cases notLed
    | cons next rest =>
        rw [← whole, List.intercalate_cons_cons] at notLed
        cases notLed

theorem components_ne_nil {path : List Char} (nonempty : path ≠ []) : components path ≠ [] := by
  intro noComponents
  obtain ⟨notLed, noParts⟩ := List.append_eq_nil_iff.mp noComponents
  obtain ⟨name, others, cut⟩ := List.exists_cons_of_ne_nil (names_ne_nil path)
  have isPart := isNoPart_head_eq_false notLed nonempty cut
  have listed : name ∈ names path := by
    rw [cut]
    exact List.mem_cons_self
  rw [isNoPart, List.filterMap_eq_nil_iff.mp noParts name listed] at isPart
  cases isPart

/-! ## Trimming -/

section Trimming

variable {way : List (List Char)}

theorem trimLeft_intercalate (whole : ∀ name ∈ way, '/' ∉ name) :
    trimLeft (List.intercalate ['/'] way) =
      List.intercalate ['/'] (way.dropWhile isNoPart) := by
  by_cases empty : way = []
  · subst empty
    rfl
  · rw [trimLeft, names_intercalate empty whole]

theorem trimRight_intercalate (whole : ∀ name ∈ way, '/' ∉ name) :
    trimRight false (List.intercalate ['/'] way) =
      List.intercalate ['/'] (way.rdropWhile isNoPart) := by
  by_cases empty : way = []
  · subst empty
    rfl
  · have trimmed : trimRight false (List.intercalate ['/'] way) =
        List.intercalate ['/'] ((names (List.intercalate ['/'] way)).rdropWhile isNoPart) := rfl
    rw [trimmed, names_intercalate empty whole]

theorem filterMap_rdropWhile_isNoPart (way : List (List Char)) :
    (way.rdropWhile isNoPart).filterMap Component.ofName? = way.filterMap Component.ofName? := by
  rw [List.rdropWhile, List.filterMap_reverse, filterMap_dropWhile_isNoPart,
    List.filterMap_reverse, List.reverse_reverse]

end Trimming

/-! ## Taking components away -/

theorem parts_slash (rest : List Char) : parts ('/' :: rest) = parts rest :=
  parts_append_slash [] rest

theorem components_slash (rest : List Char) : components ('/' :: rest) = .root :: parts rest :=
  congrArg (Component.root :: ·) (parts_slash rest)

theorem components_dot_slash (rest : List Char) :
    components ('.' :: '/' :: rest) = .current :: parts rest :=
  congrArg (Component.current :: ·) (parts_append_slash ['.'] rest)

theorem dropNames_zero (text : List Char) : dropComponents.dropNames 0 text = text := by
  rw [dropComponents.dropNames, dropComponents.go, Option.getD_some, intercalate_names]

theorem trimLeft_dropNames_slash (rest : List Char) (count : Nat) :
    trimLeft (dropComponents.dropNames count ('/' :: rest)) =
      trimLeft (dropComponents.dropNames count rest) := by
  have behindSlash : names ('/' :: rest) = [] :: names rest := names_append_slash [] rest
  cases count with
  | zero =>
      rw [dropNames_zero, dropNames_zero, trimLeft, trimLeft, behindSlash]
      rfl
  | succ count =>
      rw [dropComponents.dropNames, dropComponents.dropNames, behindSlash]
      rfl

theorem trimLeft_dropComponents_slash {head : List Char} (isHead : head = [] ∨ head = ['.'])
    (rest : List Char) (count : Nat) :
    trimLeft (dropComponents (count + 1) true (head ++ '/' :: rest)) =
      trimLeft (dropComponents.dropNames count rest) := by
  rcases isHead with rfl | rfl
  · rfl
  · exact trimLeft_dropNames_slash rest count

/-- Taking components away cuts the names of a path behind one of them. -/
theorem exists_trimLeft_dropComponents {path : List Char} {count : Nat}
    (enough : count + 1 ≤ (components path).length) :
    ∃ front back, names path = front ++ back ∧ front ≠ [] ∧
      trimLeft (dropComponents (count + 1) true path) =
        List.intercalate ['/'] (back.dropWhile isNoPart) ∧
      back.filterMap Component.ofName? = (components path).drop (count + 1) := by
  rcases leading_eq_nil_or path with notLed | rfl | ⟨head, rest, isHead, rfl⟩
  · rw [components_eq, notLed, List.nil_append] at enough ⊢
    obtain ⟨front, back, cut, taken, dropped, left⟩ := exists_dropNames_eq enough
    refine ⟨front, back, cut, ?_, ?_, left⟩
    · rintro rfl
      cases taken
    · rw [dropComponents]
      simp only [notLed]
      rw [dropped, trimLeft_intercalate (slash_not_mem_of_names_eq_append cut)]
  · obtain rfl : count = 0 := Nat.le_zero.mp (Nat.le_of_succ_le_succ enough)
    exact ⟨[['.']], [], rfl, List.cons_ne_nil _ _, rfl, rfl⟩
  · obtain ⟨lead, isComponents⟩ :
        ∃ lead, components (head ++ '/' :: rest) = lead :: parts rest := by
      rcases isHead with rfl | rfl
      · exact ⟨.root, components_slash rest⟩
      · exact ⟨.current, components_dot_slash rest⟩
    rw [isComponents, List.length_cons] at enough
    obtain ⟨front, back, cut, _, dropped, left⟩ :=
      exists_dropNames_eq (Nat.le_of_succ_le_succ enough)
    refine ⟨names head ++ front, back, ?_, ?_, ?_, ?_⟩
    · rw [names_append_slash, cut, List.append_assoc]
    · exact List.append_ne_nil_of_left_ne_nil (names_ne_nil head) front
    · rw [trimLeft_dropComponents_slash isHead, dropped,
        trimLeft_intercalate (slash_not_mem_of_names_eq_append cut)]
    · rw [isComponents, left, List.drop_succ_cons]

/-! ## What is left -/

theorem intercalate_append {front back : List (List Char)} (someFront : front ≠ [])
    (someBack : back ≠ []) :
    List.intercalate ['/'] (front ++ back) =
      List.intercalate ['/'] front ++ '/' :: List.intercalate ['/'] back := by
  induction front with
  | nil => exact absurd rfl someFront
  | cons name rest inductionHypothesis =>
      by_cases single : rest = []
      · subst single
        rw [List.singleton_append, List.intercalate_cons_of_ne_nil someBack,
          List.intercalate_singleton, List.append_assoc, List.singleton_append]
      · rw [List.cons_append,
          List.intercalate_cons_of_ne_nil (List.append_ne_nil_of_left_ne_nil single back),
          List.intercalate_cons_of_ne_nil single, inductionHypothesis single]
        simp only [List.append_assoc]

theorem intercalate_prefix_append (front back : List (List Char)) :
    List.intercalate ['/'] front <+: List.intercalate ['/'] (front ++ back) := by
  by_cases someFront : front = []
  · rw [someFront]
    exact List.nil_prefix
  · by_cases someBack : back = []
    · simp [someBack]
    · rw [intercalate_append someFront someBack]
      exact List.prefix_append _ _

theorem leading_intercalate {name : List Char} {others : List (List Char)}
    (isPart : isNoPart name = false) (noSlash : '/' ∉ name) :
    leading (List.intercalate ['/'] (name :: others)) = [] := by
  obtain ⟨part, found⟩ := Option.isSome_iff_exists.mp (Option.isNone_eq_false_iff.mp isPart)
  have text := Component.text_of_ofName? found
  subst text
  have proper : part.IsPart := ⟨found, noSlash⟩
  by_cases single : others = []
  · rw [single, List.intercalate_singleton, proper.leading_text]
  · rw [List.intercalate_cons_of_ne_nil single, List.append_assoc, List.singleton_append,
      leading_append_slash proper.text_ne_nil, proper.leading_text]

theorem components_intercalate {way : List (List Char)}
    (headPart : ∀ name ∈ way.head?, isNoPart name = false) (whole : ∀ name ∈ way, '/' ∉ name) :
    components (List.intercalate ['/'] way) = way.filterMap Component.ofName? := by
  cases way with
  | nil => rfl
  | cons name others =>
      rw [components_eq, leading_intercalate (headPart name rfl) (whole name List.mem_cons_self),
        parts_intercalate whole, List.nil_append]

/-- How the names of a path are cut where a base is taken away: into those in front, those that are
left, and those that are trimmed behind them. -/
structure IsCut (path base : List Char) (front kept behind : List (List Char)) : Prop where
  names_eq : names path = front ++ (kept ++ behind)
  front_ne_nil : front ≠ []
  behind_noPart : ∀ name ∈ behind, isNoPart name = true
  head_isPart : ∀ name ∈ kept.head?, isNoPart name = false
  last_isPart : ∀ name ∈ kept.getLast?, isNoPart name = false
  components_path : components path = components base ++ kept.filterMap Component.ofName?
  stripped : stripBase? path base = some (List.intercalate ['/'] kept)

theorem exists_isCut {path base : List Char} (someBase : base ≠ [])
    (begins : components base <+: components path) :
    ∃ front kept behind, IsCut path base front kept behind := by
  obtain ⟨count, length⟩ :=
    Nat.exists_eq_add_one_of_ne_zero (mt List.length_eq_zero_iff.mp (components_ne_nil someBase))
  have taken : (components path).take (components base).length = components base :=
    (List.prefix_iff_eq_take.mp begins).symm
  have enough : count + 1 ≤ (components path).length := by
    rw [← length]
    exact begins.length_le
  obtain ⟨front, back, cut, someFront, trimmed, left⟩ := exists_trimLeft_dropComponents enough
  have startedWhole : ∀ name ∈ back.dropWhile isNoPart, '/' ∉ name := fun name member =>
    slash_not_mem_of_names_eq_append cut name ((List.dropWhile_sublist isNoPart).mem member)
  refine ⟨front ++ back.takeWhile isNoPart, (back.dropWhile isNoPart).rdropWhile isNoPart,
    (back.dropWhile isNoPart).rtakeWhile isNoPart, ?_, ?_, ?_, ?_, ?_, ?_, ?_⟩
  · rw [List.rdropWhile_append_rtakeWhile, List.append_assoc, List.takeWhile_append_dropWhile,
      cut]
  · exact List.append_ne_nil_of_left_ne_nil someFront _
  · intro name member
    exact List.mem_rtakeWhile_imp member
  · intro name isHead
    obtain ⟨more, whole⟩ := List.rdropWhile_prefix isNoPart (back.dropWhile isNoPart)
    obtain ⟨others, isCons⟩ := List.head?_eq_some_iff.mp isHead
    have stops := List.head?_dropWhile_not isNoPart back
    rw [← whole, isCons] at stops
    exact stops
  · intro name isLast
    obtain ⟨nonempty, rfl⟩ := List.mem_getLast?_eq_getLast isLast
    exact Bool.eq_false_iff.mpr (List.rdropWhile_last_not isNoPart _ nonempty)
  · rw [filterMap_rdropWhile_isNoPart, filterMap_dropWhile_isNoPart, left, ← length]
    conv => lhs; rw [← List.take_append_drop (components base).length (components path), taken]
  · have notEmpty : (components base).isEmpty = false :=
      List.isEmpty_eq_false_iff.mpr (components_ne_nil someBase)
    simp only [stripBase?, taken, if_true, notEmpty, Bool.false_eq_true, if_false]
    rw [length, trimmed, trimRight_intercalate startedWhole]

theorem leading_append_slash_eq (left right : List Char) :
    leading (left ++ '/' :: right) = leading (left ++ ['/']) := by
  by_cases empty : left = []
  · rw [empty]
    rfl
  · rw [leading_append_slash empty, leading_append_slash empty]

namespace IsCut

variable {path base : List Char} {front kept behind : List (List Char)}

theorem slash_not_mem (isCut : IsCut path base front kept behind) :
    (∀ name ∈ front, '/' ∉ name) ∧ ∀ name ∈ kept, '/' ∉ name := by
  have whole : ∀ name ∈ front ++ (kept ++ behind), '/' ∉ name := by
    rw [← isCut.names_eq]
    exact fun _ member => slash_not_mem_of_mem_names member
  exact ⟨fun name member => whole name (List.mem_append_left _ member), fun name member =>
    whole name (List.mem_append_right front (List.mem_append_left behind member))⟩

theorem components_kept (isCut : IsCut path base front kept behind) :
    components (List.intercalate ['/'] kept) = kept.filterMap Component.ofName? :=
  components_intercalate isCut.head_isPart isCut.slash_not_mem.2

theorem path_eq (isCut : IsCut path base front kept behind) (something : kept ≠ []) :
    path = List.intercalate ['/'] front ++ '/' :: List.intercalate ['/'] (kept ++ behind) := by
  rw [← intercalate_append isCut.front_ne_nil
    (List.append_ne_nil_of_left_ne_nil something behind), ← isCut.names_eq, intercalate_names]

theorem components_front (isCut : IsCut path base front kept behind) (something : kept ≠ []) :
    components (List.intercalate ['/'] front ++ ['/']) = components base := by
  have behindParts : behind.filterMap Component.ofName? = [] :=
    List.filterMap_eq_nil_iff.mpr fun name member =>
      Option.isNone_iff_eq_none.mp (isCut.behind_noPart name member)
  have pathParts : parts path =
      front.filterMap Component.ofName? ++ kept.filterMap Component.ofName? := by
    rw [parts, isCut.names_eq, List.filterMap_append, List.filterMap_append, behindParts,
      List.append_nil]
  have sameLead : leading path = leading (List.intercalate ['/'] front ++ ['/']) := by
    conv => lhs; rw [isCut.path_eq something]
    exact leading_append_slash_eq _ _
  have noParts : parts [] = [] := rfl
  have sameComponents := isCut.components_path
  rw [components_eq, pathParts, sameLead, ← List.append_assoc] at sameComponents
  rw [components_eq, parts_append_slash, parts_intercalate isCut.slash_not_mem.1, noParts,
    List.append_nil]
  exact List.append_cancel_right sameComponents

end IsCut

/-- Whether a text is what a path has below a base: a piece of the path behind one with the
components of the base, which has the components that are left. -/
structure IsRest (path base rest : List Char) : Prop where
  exists_split : ∃ front behind, path = front ++ rest ++ behind ∧
    components front = components base
  components_path : components path = components base ++ components rest

theorem IsCut.isRest {path base : List Char} {front kept behind : List (List Char)}
    (isCut : IsCut path base front kept behind) :
    IsRest path base (List.intercalate ['/'] kept) := by
  refine ⟨?_, by rw [isCut.components_kept, isCut.components_path]⟩
  by_cases nothing : kept = []
  · subst nothing
    have same : components path = components base := by
      simpa using isCut.components_path
    exact ⟨path, [], by simp, same⟩
  · obtain ⟨trimmed, isPrefix⟩ := intercalate_prefix_append kept behind
    refine ⟨List.intercalate ['/'] front ++ ['/'], trimmed, ?_, isCut.components_front nothing⟩
    conv => lhs; rw [isCut.path_eq nothing, ← isPrefix]
    simp only [List.append_assoc, List.singleton_append]
    rfl

/-! ## Trimming at the end -/

theorem trimRight_prefix_self (text : List Char) : trimRight false text <+: text := by
  have trimmed : trimRight false text =
      List.intercalate ['/'] ((names text).rdropWhile isNoPart) := rfl
  have isPrefix := intercalate_prefix_append ((names text).rdropWhile isNoPart)
    ((names text).rtakeWhile isNoPart)
  rw [List.rdropWhile_append_rtakeWhile, intercalate_names] at isPrefix
  rw [trimmed]
  exact isPrefix

theorem parts_trimRight (text : List Char) : parts (trimRight false text) = parts text := by
  have trimmed : trimRight false text =
      List.intercalate ['/'] ((names text).rdropWhile isNoPart) := rfl
  have kept := List.rdropWhile_prefix isNoPart (names text)
  have whole : ∀ name ∈ (names text).rdropWhile isNoPart, '/' ∉ name := fun _ member =>
    slash_not_mem_of_mem_names (kept.subset member)
  rw [trimmed, parts_intercalate whole, filterMap_rdropWhile_isNoPart]
  rfl

theorem trimRight_start_prefix_self (path : List Char) : trimRight true path <+: path := by
  obtain ⟨behind, whole⟩ := trimRight_prefix_self (path.drop (leading path).length)
  refine ⟨behind, ?_⟩
  have trimmed : trimRight true path =
      path.take (leading path).length ++ trimRight false (path.drop (leading path).length) := rfl
  rw [trimmed, List.append_assoc, whole, List.take_append_drop]

theorem leading_trimRight {path : List Char} (notLed : leading path = []) :
    leading (trimRight false path) = [] := by
  by_cases empty : path = []
  · rw [empty]
    rfl
  · obtain ⟨name, others, cut⟩ := List.exists_cons_of_ne_nil (names_ne_nil path)
    have isPart := isNoPart_head_eq_false notLed empty cut
    have listed : name ∈ names path := by
      rw [cut]
      exact List.mem_cons_self
    have noSlash := slash_not_mem_of_mem_names listed
    have trimmed : trimRight false path =
        List.intercalate ['/'] ((names path).rdropWhile isNoPart) := rfl
    obtain ⟨behind, whole⟩ := List.rdropWhile_prefix isNoPart (names path)
    rw [trimmed]
    cases kept : (names path).rdropWhile isNoPart with
    | nil => rfl
    | cons first more =>
        rw [kept, cut] at whole
        obtain ⟨rfl, _⟩ := List.cons.inj whole
        exact leading_intercalate isPart noSlash

theorem trimRight_of_not_led {path : List Char} (notLed : leading path = []) :
    trimRight true path = trimRight false path := by
  simp only [trimRight, notLed, List.length_nil, List.take_zero, List.drop_zero, List.nil_append,
    Bool.false_eq_true, if_false, if_true]

theorem components_trimRight (path : List Char) :
    components (trimRight true path) = components path := by
  rcases leading_eq_nil_or path with notLed | rfl | ⟨head, rest, rfl | rfl, rfl⟩
  · rw [trimRight_of_not_led notLed, components_eq, components_eq, leading_trimRight notLed, notLed,
      parts_trimRight]
  · rfl
  · have trimmed : trimRight true ('/' :: rest) = '/' :: trimRight false rest := rfl
    rw [List.nil_append, trimmed, components_slash, components_slash, parts_trimRight]
  · have trimmed : trimRight true ('.' :: '/' :: rest) = '.' :: trimRight false ('/' :: rest) := rfl
    have sameParts := parts_trimRight ('/' :: rest)
    have isPrefix := trimRight_prefix_self ('/' :: rest)
    rw [List.singleton_append, trimmed, components_dot_slash, ← parts_slash, ← sameParts]
    -- What is left of the text behind the dot is nothing or begins with its slash.
    cases left : trimRight false ('/' :: rest) with
    | nil => rfl
    | cons char others =>
        rw [left] at isPrefix
        obtain ⟨rfl, _⟩ := List.cons_prefix_cons.mp isPrefix
        rw [components_dot_slash, parts_slash]

/-! ## Showing -/

theorem isRest_trimRight (path : List Char) : IsRest path [] (trimRight true path) where
  exists_split := by
    obtain ⟨behind, whole⟩ := trimRight_start_prefix_self path
    exact ⟨[], behind, whole.symm, rfl⟩
  components_path := (components_trimRight path).symm

/-- A base is taken away from a path if its components begin those of the path. -/
theorem exists_stripBase?_eq {path base : List Char}
    (begins : components base <+: components path) :
    ∃ rest, stripBase? path base = some rest ∧ IsRest path base rest := by
  by_cases noBase : base = []
  · subst noBase
    exact ⟨_, rfl, isRest_trimRight path⟩
  · obtain ⟨front, kept, behind, isCut⟩ := exists_isCut noBase begins
    exact ⟨_, isCut.stripped, isCut.isRest⟩

def slashed (text : List Char) : List Char :=
  text.map fun char => if char = '\\' then '/' else char

theorem slashed_eq_self {text : List Char} (noBackslash : '\\' ∉ text) : slashed text = text := by
  have same : ∀ char ∈ text, (if char = '\\' then '/' else char) = id char := by
    intro char member
    refine if_neg ?_
    rintro rfl
    exact noBackslash member
  rw [slashed, List.map_congr_left same, List.map_id]

theorem display_eq_slashed (path base : List Char) :
    display path base = slashed ((stripBase? path base).getD path) := by
  simp only [display, slashed, beq_iff_eq]

/-- Whether a name between slashes is that of a file or a folder, and shown as it is. -/
structure IsPlainName (name : List Char) : Prop where
  nonempty : name ≠ []
  notCurrent : name ≠ ['.']
  notParent : name ≠ ['.', '.']
  noSlash : '/' ∉ name
  noBackslash : '\\' ∉ name

instance (name : List Char) : Decidable (IsPlainName name) :=
  decidable_of_iff
    (name ≠ [] ∧ name ≠ ['.'] ∧ name ≠ ['.', '.'] ∧ '/' ∉ name ∧ '\\' ∉ name)
    ⟨fun ⟨nonempty, current, parent, slash, backslash⟩ =>
        ⟨nonempty, current, parent, slash, backslash⟩,
      fun plain => ⟨plain.nonempty, plain.notCurrent, plain.notParent, plain.noSlash,
        plain.noBackslash⟩⟩

theorem IsPlainName.isPart {name : List Char} (plain : IsPlainName name) :
    isNoPart name = false := by
  refine Bool.eq_false_iff.mpr fun noPart => ?_
  rcases ofName?_eq_none_iff.mp (Option.isNone_iff_eq_none.mp noPart) with empty | current
  · exact plain.nonempty empty
  · exact plain.notCurrent current

section Joined

variable {path base : List Char} {front kept behind way : List (List Char)}

theorem length_filterMap_ofName? (areParts : ∀ name ∈ way, isNoPart name = false) :
    (way.filterMap Component.ofName?).length = way.length := by
  rw [List.length_filterMap_eq_countP, List.countP_eq_length]
  intro name member
  have isPart := areParts name member
  rw [isNoPart, Option.isNone_eq_false_iff] at isPart
  exact isPart

/-- If the names of a path end in parts, and these are the parts that are left of it, then their
names are left. -/
theorem IsCut.kept_eq (isCut : IsCut path base front kept behind) (someName : way ≠ [])
    (areParts : ∀ name ∈ way, isNoPart name = false) (ends : way <:+ names path)
    (sameParts : kept.filterMap Component.ofName? = way.filterMap Component.ofName?) :
    kept = way := by
  have nothingBehind : behind = [] := by
    by_contra something
    obtain ⟨others, whole⟩ := ends
    have sameLast : way.getLast? = behind.getLast? := by
      rw [← List.getLast?_append_of_ne_nil others someName, whole, isCut.names_eq,
        ← List.append_assoc, List.getLast?_append_of_ne_nil _ something]
    have lastBehind := List.getLast?_eq_some_getLast something
    have lastOfWay := areParts _ (List.mem_of_getLast? (sameLast.trans lastBehind))
    rw [isCut.behind_noPart _ (List.getLast_mem something)] at lastOfWay
    cases lastOfWay
  have keptEnds : kept <:+ names path := by
    rw [isCut.names_eq, nothingBehind, List.append_nil]
    exact List.suffix_append front kept
  rcases List.suffix_or_suffix_of_suffix keptEnds ends with shorter | longer
  · refine shorter.eq_of_length_le ?_
    rw [← length_filterMap_ofName? areParts, ← sameParts]
    exact List.length_filterMap_le _ kept
  · obtain ⟨more, rfl⟩ := longer
    rw [List.filterMap_append, List.append_left_eq_self] at sameParts
    cases more with
    | nil => rfl
    | cons name others =>
        have isPart := isCut.head_isPart name rfl
        rw [isNoPart, List.filterMap_eq_nil_iff.mp sameParts name List.mem_cons_self] at isPart
        cases isPart

theorem stripBase?_below_of_isNoPart (someName : way ≠ [])
    (areParts : ∀ name ∈ way, isNoPart name = false) (whole : ∀ name ∈ way, '/' ∉ name)
    (base : List Char) : stripBase? (below base way) base = some (List.intercalate ['/'] way) := by
  have relative : isAbsolute (List.intercalate ['/'] way) = false := by
    refine isAbsolute_intercalate fun name member => ⟨?_, whole name member⟩
    rintro rfl
    exact absurd (areParts [] member) (by decide)
  by_cases noBase : base = []
  · subst noBase
    have alone : below [] way = List.intercalate ['/'] way := by
      rw [below, join, if_neg (by simp [relative])]
      rfl
    have notLed : leading (List.intercalate ['/'] way) = [] := by
      obtain ⟨name, others, rfl⟩ := List.exists_cons_of_ne_nil someName
      exact leading_intercalate (areParts name List.mem_cons_self) (whole name List.mem_cons_self)
    have nothingTrimmed : way.rdropWhile isNoPart = way :=
      List.rdropWhile_eq_self_iff.mpr fun _ =>
        Bool.eq_false_iff.mp (areParts _ (List.getLast_mem someName))
    have stripped : stripBase? (List.intercalate ['/'] way) [] =
        some (trimRight true (List.intercalate ['/'] way)) := rfl
    rw [alone, stripped, trimRight_of_not_led notLed, trimRight_intercalate whole, nothingTrimmed]
  · have begins : components base <+: components (below base way) := by
      rw [below, components_join noBase relative]
      exact List.prefix_append _ _
    obtain ⟨front, kept, behind, isCut⟩ := exists_isCut noBase begins
    have ends : way <:+ names (below base way) := by
      rw [below, join_eq_append noBase relative, names_append_slash,
        names_intercalate someName whole]
      exact List.suffix_append _ way
    have sameParts : kept.filterMap Component.ofName? = way.filterMap Component.ofName? := by
      have isComponents := isCut.components_path
      rw [below, components_join noBase relative, parts_intercalate whole] at isComponents
      exact (List.append_cancel_left isComponents).symm
    rw [isCut.stripped, isCut.kept_eq someName areParts ends sameParts]

theorem stripBase?_below (someName : way ≠ []) (plain : ∀ name ∈ way, IsPlainName name)
    (base : List Char) : stripBase? (below base way) base = some (List.intercalate ['/'] way) :=
  stripBase?_below_of_isNoPart someName (fun name member => (plain name member).isPart)
    (fun name member => (plain name member).noSlash) base

end Joined

/-- A path that was joined from a base and some names is shown by these names, however the base is
written.  A base is taken away from a path if and only if the components of the path begin with
those of the base, and any other path is shown whole. -/
theorem display_strips :
    (∀ base way, way ≠ [] → (∀ name ∈ way, IsPlainName name) →
      display (below base way) base = List.intercalate ['/'] way) ∧
      ∀ path base,
        ((∃ rest, IsRest path base rest ∧ display path base = slashed rest) ↔
          components base <+: components path) ∧
        (¬ components base <+: components path → display path base = slashed path) := by
  refine ⟨?_, fun path base => ⟨⟨?_, ?_⟩, ?_⟩⟩
  · intro base way someName plain
    have noBackslash : '\\' ∉ List.intercalate ['/'] way :=
      not_mem_intercalate (by decide) fun name member => (plain name member).noBackslash
    rw [display_eq_slashed, stripBase?_below someName plain base, Option.getD_some,
      slashed_eq_self noBackslash]
  · rintro ⟨rest, isRest, _⟩
    exact ⟨_, isRest.components_path.symm⟩
  · intro begins
    obtain ⟨rest, stripped, isRest⟩ := exists_stripBase?_eq begins
    exact ⟨rest, isRest, by rw [display_eq_slashed, stripped, Option.getD_some]⟩
  · intro notBegins
    have kept : stripBase? path base = none :=
      if_neg fun taken => notBegins (List.prefix_iff_eq_take.mpr taken.symm)
    rw [display_eq_slashed, kept, Option.getD_none]

/-- A folder with dots and slashes that do not count, and a folder whose name only begins with that
of another one. -/
theorem display_strips_writtenOtherwise :
    below "./p//.//".toList ["src".toList, "..a.js".toList] = "./p//.//src/..a.js".toList ∧
      (∀ name ∈ ["src".toList, "..a.js".toList], IsPlainName name) ∧
      display "./p//.//src/..a.js".toList "./p//.//".toList = "src/..a.js".toList ∧
      ¬ components "/project".toList <+: components "/project2/a\\b.js".toList ∧
      display "/project2/a\\b.js".toList "/project".toList = "/project2/a/b.js".toList := by
  have isBelow : below "./p//.//".toList ["src".toList, "..a.js".toList] =
      "./p//.//src/..a.js".toList := by
    decide
  have plain : ∀ name ∈ ["src".toList, "..a.js".toList], IsPlainName name := by decide
  have notBelow : ¬ components "/project".toList <+: components "/project2/a\\b.js".toList := by
    decide
  have shown := display_strips.1 "./p//.//".toList _ (List.cons_ne_nil _ _) plain
  rw [isBelow] at shown
  exact ⟨isBelow, plain, shown, notBelow, (display_strips.2 _ _).2 notBelow⟩

end EditionGuard.Path
