import EditionGuard.FileSystem.Walk
import EditionGuard.Proofs.Path.Join
import Mathlib.Data.List.Nodup
import Mathlib.Data.List.Perm.Basic

/-!
# What a walk lists

Which files lie at and below a node is told by a relation that follows the entries, one name
after the other.  A walk lists the ways to exactly these files, and in a proper tree, where
no folder has two entries of one name, it lists each way once.  The paths that it gives,
joined to the path of the folder, lead back to the same files.
-/

namespace EditionGuard

namespace FileNode

/-- The way leads from the node to a file with the bytes. -/
inductive Holds : FileNode → List (List Char) → List UInt8 → Prop
  | here (bytes : List UInt8) : Holds (.file bytes) [] bytes
  | inside {entries : List (List Char × FileNode)} {name : List Char} {child : FileNode}
      {way : List (List Char)} {bytes : List UInt8} :
      (name, child) ∈ entries →
      Holds child way bytes →
      Holds (.folder entries) (name :: way) bytes

structure IsEntryName (name : List Char) : Prop where
  ne_nil : name ≠ []
  ne_current : name ≠ ['.']
  ne_parent : name ≠ ['.', '.']
  noSlash : '/' ∉ name
  noZero : '\x00' ∉ name
  short : Text.byteLength name ≤ nameLimit

instance (name : List Char) : Decidable (IsEntryName name) :=
  decidable_of_iff
    (name ≠ [] ∧ name ≠ ['.'] ∧ name ≠ ['.', '.'] ∧ '/' ∉ name ∧ '\x00' ∉ name ∧
      Text.byteLength name ≤ nameLimit)
    ⟨fun ⟨nonempty, current, parent, slash, zero, short⟩ =>
        ⟨nonempty, current, parent, slash, zero, short⟩,
      fun named => ⟨named.ne_nil, named.ne_current, named.ne_parent, named.noSlash,
        named.noZero, named.short⟩⟩

/-- Whether all entries bear names that they can have, and no folder has a name twice. -/
inductive Proper : FileNode → Prop
  | file (bytes : List UInt8) : Proper (.file bytes)
  | folder {entries : List (List Char × FileNode)} :
      (entries.map Prod.fst).Nodup →
      (∀ entry ∈ entries, IsEntryName entry.1) →
      (∀ entry ∈ entries, Proper entry.2) →
      Proper (.folder entries)

theorem Holds.ne_nil {entries : List (List Char × FileNode)} {way : List (List Char)}
    {bytes : List UInt8} (holds : (folder entries).Holds way bytes) : way ≠ [] := by
  cases holds
  exact List.cons_ne_nil _ _

theorem Holds.isEntryName {node : FileNode} {way : List (List Char)} {bytes : List UInt8}
    (holds : node.Holds way bytes) (proper : node.Proper) :
    ∀ name ∈ way, IsEntryName name := by
  induction holds with
  | here bytes =>
      intro name member
      cases member
  | inside entry _ inductionHypothesis =>
      cases proper with
      | folder distinct named properEntries =>
          intro name member
          rcases List.mem_cons.mp member with rfl | inRest
          · exact named _ entry
          · exact inductionHypothesis (properEntries _ entry) name inRest

/-! ## The order of a walk -/

theorem insertNamed_perm {α : Type} (name : List Char) (value : α)
    (items : List (List Char × α)) :
    (insertNamed name value items).Perm ((name, value) :: items) := by
  induction items with
  | nil => exact List.Perm.refl _
  | cons item rest inductionHypothesis =>
      rw [insertNamed]
      by_cases earlier : nameBefore item.1 name
      · rw [if_pos earlier]
        exact (inductionHypothesis.cons item).trans (List.Perm.swap _ _ _)
      · rw [if_neg earlier]

theorem sortedFiles_perm (entries : List (List Char × FileNode)) :
    (sortedFiles entries).Perm (entries.map fun entry => (entry.1, entry.2.filesBelow)) := by
  induction entries with
  | nil => exact List.Perm.refl _
  | cons entry rest inductionHypothesis =>
      obtain ⟨name, node⟩ := entry
      rw [sortedFiles, List.map_cons]
      exact (insertNamed_perm name node.filesBelow _).trans (inductionHypothesis.cons _)

theorem filesBelow_folder_perm (entries : List (List Char × FileNode)) :
    (folder entries).filesBelow.Perm
      (entries.flatMap fun entry => entry.2.filesBelow.map (entry.1 :: ·)) := by
  have sorted := (sortedFiles_perm entries).flatMap_right fun item => item.2.map (item.1 :: ·)
  rw [List.flatMap_map] at sorted
  rw [filesBelow]
  exact sorted

theorem mem_filesBelow_folder_iff {entries : List (List Char × FileNode)}
    {way : List (List Char)} :
    way ∈ (folder entries).filesBelow ↔
      ∃ name child rest, (name, child) ∈ entries ∧ rest ∈ child.filesBelow ∧
        way = name :: rest := by
  rw [(filesBelow_folder_perm entries).mem_iff, List.mem_flatMap]
  constructor
  · rintro ⟨⟨name, child⟩, entry, member⟩
    obtain ⟨rest, inChild, rfl⟩ := List.mem_map.mp member
    exact ⟨name, child, rest, entry, inChild, rfl⟩
  · rintro ⟨name, child, rest, entry, inChild, rfl⟩
    exact ⟨(name, child), entry, List.mem_map.mpr ⟨rest, inChild, rfl⟩⟩

/-- A walk lists exactly the ways that lead to files. -/
theorem mem_filesBelow_iff {node : FileNode} {way : List (List Char)} :
    way ∈ node.filesBelow ↔ ∃ bytes, node.Holds way bytes := by
  constructor
  · intro listed
    induction way generalizing node with
    | nil =>
        cases node with
        | file bytes => exact ⟨bytes, .here bytes⟩
        | folder entries =>
            obtain ⟨name, child, rest, _, _, impossible⟩ :=
              mem_filesBelow_folder_iff.mp listed
            cases impossible
    | cons name rest inductionHypothesis =>
        cases node with
        | file bytes => simp [filesBelow] at listed
        | folder entries =>
            obtain ⟨_, child, _, entry, inChild, same⟩ :=
              mem_filesBelow_folder_iff.mp listed
            cases same
            obtain ⟨bytes, holds⟩ := inductionHypothesis inChild
            exact ⟨bytes, .inside entry holds⟩
  · rintro ⟨bytes, holds⟩
    induction holds with
    | here bytes => exact List.mem_singleton.mpr rfl
    | inside entry _ inductionHypothesis =>
        exact mem_filesBelow_folder_iff.mpr ⟨_, _, _, entry, inductionHypothesis, rfl⟩

/-- A walk through a proper tree lists no way twice. -/
theorem Proper.nodup_filesBelow {node : FileNode} (proper : node.Proper) :
    node.filesBelow.Nodup := by
  induction proper with
  | file bytes => exact List.nodup_singleton _
  | folder distinct _ _ inductionHypothesis =>
      rw [(filesBelow_folder_perm _).nodup_iff, List.nodup_flatMap]
      constructor
      · intro entry member
        exact (inductionHypothesis entry member).map List.cons_injective
      · rw [List.Nodup, List.pairwise_map] at distinct
        refine distinct.imp ?_
        intro left right different
        -- Ways through two entries differ in their first names.
        refine List.disjoint_left.mpr ?_
        intro way inLeft inRight
        obtain ⟨leftRest, _, rfl⟩ := List.mem_map.mp inLeft
        obtain ⟨rightRest, _, same⟩ := List.mem_map.mp inRight
        exact different (List.cons.inj same).1.symm

/-! ## Following a way -/

/-- Where no name occurs twice, every entry is found by its name. -/
theorem lookup_eq_some_of_mem {entries : List (List Char × FileNode)}
    (distinct : (entries.map Prod.fst).Nodup) {name : List Char} {child : FileNode}
    (entry : (name, child) ∈ entries) : entries.lookup name = some child := by
  induction entries with
  | nil => cases entry
  | cons first rest inductionHypothesis =>
      obtain ⟨fresh, distinctRest⟩ := List.nodup_cons.mp distinct
      rcases List.mem_cons.mp entry with same | inRest
      · subst first
        exact List.lookup_cons_self
      · obtain ⟨firstName, firstChild⟩ := first
        have different : (name == firstName) = false := by
          rw [beq_eq_false_iff_ne]
          rintro rfl
          exact fresh (List.mem_map.mpr ⟨(name, child), inRest, rfl⟩)
        simpa only [List.lookup_cons, different] using
          inductionHypothesis distinctRest inRest

theorem follow_folder (above : List FileNode) (entries : List (List Char × FileNode))
    (name : List Char) (rest : List (List Char)) :
    (folder entries).follow above (name :: rest) =
      if name = [] ∨ name = ['.'] then (folder entries).follow above rest
      else if name = ['.', '.'] then
        match above with
        | [] => (folder entries).follow [] rest
        | nearest :: others => nearest.follow others rest
      else if nameLimit < Text.byteLength name then .error .nameTooLong
      else match entries.lookup name with
        | none => .error .notFound
        | some child => child.follow (folder entries :: above) rest :=
  rfl

theorem follow_of_holds {node : FileNode} {way : List (List Char)} {bytes : List UInt8}
    (proper : node.Proper) (holds : node.Holds way bytes) (above : List FileNode) :
    node.follow above way = .ok (.file bytes) := by
  induction holds generalizing above with
  | here bytes => rfl
  | inside entry _ inductionHypothesis =>
      cases proper with
      | folder distinct named properEntries =>
          have found := lookup_eq_some_of_mem distinct entry
          have isName := named _ entry
          rw [follow_folder, if_neg (by simp [isName.ne_nil, isName.ne_current]),
            if_neg isName.ne_parent, if_neg (Nat.not_lt.mpr isName.short), found]
          exact inductionHypothesis (properEntries _ entry) _

/-- Following a name either fails whatever comes after it, or moves to a node from which
whatever comes after it is followed. -/
theorem follow_cons_cases (above : List FileNode) (here : FileNode) (name : List Char) :
    (∃ fault, ∀ rest, here.follow above (name :: rest) = .error fault) ∨
      ∃ (nextAbove : List FileNode) (next : FileNode), ∀ rest,
        here.follow above (name :: rest) = next.follow nextAbove rest := by
  cases here with
  | file content => exact Or.inl ⟨.notDirectory, fun _ => rfl⟩
  | folder entries =>
      by_cases stays : name = [] ∨ name = ['.']
      · exact Or.inr ⟨above, folder entries, fun rest => by rw [follow_folder, if_pos stays]⟩
      · by_cases goesUp : name = ['.', '.']
        · cases above with
          | nil =>
              exact Or.inr ⟨[], folder entries, fun rest => by
                rw [follow_folder, if_neg stays, if_pos goesUp]⟩
          | cons nearest others =>
              exact Or.inr ⟨others, nearest, fun rest => by
                rw [follow_folder, if_neg stays, if_pos goesUp]⟩
        · by_cases long : nameLimit < Text.byteLength name
          · exact Or.inl ⟨.nameTooLong, fun rest => by
              rw [follow_folder, if_neg stays, if_neg goesUp, if_pos long]⟩
          · cases found : entries.lookup name with
            | none =>
                exact Or.inl ⟨.notFound, fun rest => by
                  rw [follow_folder, if_neg stays, if_neg goesUp, if_neg long, found]⟩
            | some child =>
                exact Or.inr ⟨folder entries :: above, child, fun rest => by
                  rw [follow_folder, if_neg stays, if_neg goesUp, if_neg long, found]⟩

/-- Following may stop at a node and go on from there. -/
theorem follow_append {above : List FileNode} {here node : FileNode}
    {first second : List (List Char)} {result : Except ReadFault FileNode}
    (reached : here.follow above first = .ok node)
    (goesOn : ∀ above, node.follow above second = result) :
    here.follow above (first ++ second) = result := by
  induction first generalizing above here with
  | nil =>
      rw [follow] at reached
      cases reached
      exact goesOn above
  | cons name rest inductionHypothesis =>
      rcases follow_cons_cases above here name with
        ⟨fault, fails⟩ | ⟨nextAbove, next, moves⟩
      · rw [fails] at reached
        cases reached
      · rw [moves] at reached
        rw [List.cons_append, moves]
        exact inductionHypothesis reached

theorem follow_of_follow_append_nil {above : List FileNode} {here node : FileNode}
    {way : List (List Char)} (reached : here.follow above (way ++ [[]]) = .ok node) :
    here.follow above way = .ok node := by
  induction way generalizing above here with
  | nil =>
      cases here with
      | file content => simp [follow] at reached
      | folder entries => simpa [follow] using reached
  | cons name rest inductionHypothesis =>
      rcases follow_cons_cases above here name with
        ⟨fault, fails⟩ | ⟨nextAbove, next, moves⟩
      · rw [List.cons_append, fails] at reached
        cases reached
      · rw [List.cons_append, moves] at reached
        rw [moves]
        exact inductionHypothesis reached

end FileNode

/-! ## Reading what a walk lists -/

namespace FileSystem

theorem follow_of_find {files : FileSystem} {path : List Char} {node : FileNode}
    (found : files.find path = .ok node) :
    '\x00' ∉ path ∧ path ≠ [] ∧ files.top.follow [] (files.way path) = .ok node := by
  rw [find] at found
  by_cases zero : path.contains '\x00'
  · rw [if_pos zero] at found
    cases found
  · rw [if_neg zero] at found
    by_cases empty : path.isEmpty
    · rw [if_pos empty] at found
      cases found
    · rw [if_neg empty] at found
      by_cases long : pathLimit < Text.byteLength path
      · rw [if_pos long] at found
        cases found
      · rw [if_neg long] at found
        exact ⟨by simpa using zero, by simpa using empty, found⟩

theorem find_eq_follow {files : FileSystem} {path : List Char} (noZero : '\x00' ∉ path)
    (nonempty : path ≠ []) (short : Text.byteLength path ≤ pathLimit) :
    files.find path = files.top.follow [] (files.way path) := by
  rw [find, if_neg (by simpa using noZero), if_neg (by simpa using nonempty),
    if_neg (Nat.not_lt.mpr short)]

/-- Names put behind a path are followed from where the path leads. -/
theorem follow_way_join {files : FileSystem} {path : List Char} {node : FileNode}
    {names : List (List Char)} {result : Except ReadFault FileNode}
    (reached : files.top.follow [] (files.way path) = .ok node) (nonempty : path ≠ [])
    (someName : names ≠ []) (whole : ∀ name ∈ names, name ≠ [] ∧ '/' ∉ name)
    (goesOn : ∀ above, node.follow above names = result) :
    files.top.follow [] (files.way (Path.below path names)) =
      result := by
  have relative := Path.isAbsolute_intercalate whole
  have readBack := Path.names_intercalate someName fun name member => (whole name member).2
  have cutNames : Path.names (Path.below path names) =
      Path.names (Path.withoutFinalSlash path) ++ names := by
    rw [Path.below, Path.join_eq_append nonempty relative, Path.names_append_slash, readBack]
  have cutWay : files.way (Path.below path names) =
      (if Path.isAbsolute path then Path.names (Path.withoutFinalSlash path)
        else Path.names files.workingDirectory ++
          Path.names (Path.withoutFinalSlash path)) ++ names := by
    rw [way, cutNames, Path.below, Path.isAbsolute_join nonempty relative]
    by_cases absolute : Path.isAbsolute path
    · rw [if_pos absolute, if_pos absolute]
    · rw [if_neg absolute, if_neg absolute, List.append_assoc]
  rw [cutWay]
  refine FileNode.follow_append ?_ goesOn
  by_cases slash : path.getLast? = some '/'
  · have cutPath : Path.names path = Path.names (Path.withoutFinalSlash path) ++ [[]] := by
      conv => lhs; rw [Path.eq_withoutFinalSlash_append slash]
      exact Path.names_append_slash _ []
    refine FileNode.follow_of_follow_append_nil ?_
    rw [way, cutPath] at reached
    by_cases absolute : Path.isAbsolute path
    · rw [if_pos absolute] at reached ⊢
      exact reached
    · rw [if_neg absolute] at reached ⊢
      rwa [List.append_assoc]
  · rw [Path.withoutFinalSlash, if_neg slash]
    exact reached

/-- The file that a way leads to is read at the path that names the way, unless this is too
long a path. -/
theorem readBytes_join {files : FileSystem} {path : List Char} {node : FileNode}
    {way : List (List Char)} {bytes : List UInt8} (found : files.find path = .ok node)
    (proper : node.Proper) (holds : node.Holds way bytes) (someName : way ≠ [])
    (short : Text.byteLength (Path.below path way) ≤ pathLimit) :
    files.readBytes (Path.below path way) = .ok bytes := by
  obtain ⟨noZero, nonempty, reached⟩ := follow_of_find found
  have named := holds.isEntryName proper
  have whole : ∀ name ∈ way, name ≠ [] ∧ '/' ∉ name := fun name member =>
    ⟨(named name member).ne_nil, (named name member).noSlash⟩
  have relative := Path.isAbsolute_intercalate whole
  have noZeroBelow : '\x00' ∉ List.intercalate ['/'] way :=
    Path.not_mem_intercalate (by decide) fun name member => (named name member).noZero
  have noZeroJoined : '\x00' ∉ Path.below path way :=
    Path.not_mem_join (by decide) relative noZero noZeroBelow
  have nonemptyJoined : Path.below path way ≠ [] := by
    rw [Path.below, Path.join_eq_append nonempty relative]
    simp
  have followed := follow_way_join reached nonempty someName whole fun above =>
    FileNode.follow_of_holds proper holds above
  rw [readBytes, find_eq_follow noZeroJoined nonemptyJoined short, followed]
  rfl

end FileSystem

end EditionGuard
