import EditionGuard.Proofs.FileSystem.Order
import EditionGuard.Proofs.Path.Stripping
import EditionGuard.Session.Emitted

/-!
# The list of all that a build has written

A folder is listed by the paths of the files below it.  Each file is listed once, in the order of
the components as bytes, and its path, joined to that of the folder, leads to it.
-/

namespace EditionGuard

open Text

def Path.componentBytes (path : List Char) : List (List UInt8) :=
  (components path).map fun part => Utf8.encode part.text

namespace FileNode

theorem IsEntryName.ofName?_eq {name : List Char} (named : IsEntryName name) :
    Path.Component.ofName? name = some (.normal name) := by
  fun_cases Path.Component.ofName? name with
  | case1 => exact absurd rfl named.ne_nil
  | case2 => exact absurd rfl named.ne_current
  | case3 => exact absurd rfl named.ne_parent
  | case4 => rfl

theorem IsEntryName.isNoPart_eq_false {name : List Char} (named : IsEntryName name) :
    Path.isNoPart name = false := by
  rw [Path.isNoPart, named.ofName?_eq]
  rfl

variable {way : List (List Char)}

theorem filterMap_ofName?_eq_map (named : ∀ name ∈ way, IsEntryName name) :
    way.filterMap Path.Component.ofName? = way.map .normal := by
  rw [← List.filterMap_eq_map]
  exact List.filterMap_congr fun name member => (named name member).ofName?_eq

theorem components_intercalate_of_named (named : ∀ name ∈ way, IsEntryName name) :
    Path.components (List.intercalate ['/'] way) = way.map .normal := by
  rw [Path.components_intercalate, filterMap_ofName?_eq_map named]
  · exact fun name isHead => (named name (List.mem_of_mem_head? isHead)).isNoPart_eq_false
  · exact fun name member => (named name member).noSlash

theorem componentBytes_intercalate (named : ∀ name ∈ way, IsEntryName name) :
    Path.componentBytes (List.intercalate ['/'] way) = way.map Utf8.encode := by
  rw [Path.componentBytes, components_intercalate_of_named named, List.map_map]
  rfl

end FileNode

namespace Session

/-- Whether a path below a folder names the file that a way leads to: its components are the names
on the way, it is what is left of the joined path without the folder, and the joined path leads to
the file and reads it, unless this is too long a path. -/
structure NamesFile (files : FileSystem) (folder : List Char) (way : List (List Char))
    (bytes : List UInt8) (path : List Char) : Prop where
  components : Path.components path = way.map .normal
  joined : Path.components (Path.join folder path) = Path.components folder ++ way.map .normal
  stripped : Path.stripBase? (Path.join folder path) folder = some path
  followed : files.top.follow [] (files.way (Path.join folder path)) = .ok (.file bytes)
  read : byteLength (Path.join folder path) ≤ FileSystem.pathLimit →
    files.readBytes (Path.join folder path) = .ok bytes

variable {files : FileSystem} {folder : List Char} {entries : List (List Char × FileNode)}

theorem namesFile_intercalate {way : List (List Char)} {bytes : List UInt8}
    (found : files.find folder = .ok (.folder entries)) (proper : (FileNode.folder entries).Proper)
    (holds : (FileNode.folder entries).Holds way bytes) :
    NamesFile files folder way bytes (List.intercalate ['/'] way) := by
  obtain ⟨_, nonempty, reached⟩ := FileSystem.follow_of_find found
  have named := holds.isEntryName proper
  have noSlash : ∀ name ∈ way, '/' ∉ name := fun name member => (named name member).noSlash
  have whole : ∀ name ∈ way, name ≠ [] ∧ '/' ∉ name := fun name member =>
    ⟨(named name member).ne_nil, noSlash name member⟩
  refine ⟨FileNode.components_intercalate_of_named named, ?joined, ?stripped, ?followed, ?read⟩
  case joined =>
    rw [Path.components_join nonempty (Path.isAbsolute_intercalate whole),
      Path.parts_intercalate noSlash, FileNode.filterMap_ofName?_eq_map named]
  case stripped =>
    exact Path.stripBase?_below_of_isNoPart holds.ne_nil
      (fun name member => (named name member).isNoPart_eq_false) noSlash folder
  case followed =>
    exact FileSystem.follow_way_join reached nonempty holds.ne_nil whole fun above =>
      FileNode.follow_of_holds proper holds above
  case read => exact FileSystem.readBytes_join found proper holds holds.ne_nil

theorem emitted_of_find {node : FileNode} (found : files.find folder = .ok node) :
    (emitted files folder).value = node.filesBelow.map (List.intercalate ['/']) := by
  rw [emitted, FileSystem.filesBelow, found]
  rfl

theorem emitted_of_fault {fault : ReadFault} (missing : files.find folder = .error fault) :
    (emitted files folder).value = [] := by
  rw [emitted, FileSystem.filesBelow, missing]
  rfl

theorem mem_emitted_iff (found : files.find folder = .ok (.folder entries)) {path : List Char} :
    path ∈ (emitted files folder).value ↔
      ∃ way bytes, (FileNode.folder entries).Holds way bytes ∧
        path = List.intercalate ['/'] way := by
  rw [emitted_of_find found, List.mem_map]
  constructor
  · rintro ⟨way, listed, rfl⟩
    obtain ⟨bytes, holds⟩ := FileNode.mem_filesBelow_iff.mp listed
    exact ⟨way, bytes, holds, rfl⟩
  · rintro ⟨way, bytes, holds, rfl⟩
    exact ⟨way, FileNode.mem_filesBelow_iff.mpr ⟨bytes, holds⟩, rfl⟩

theorem pairwise_emitted (found : files.find folder = .ok (.folder entries))
    (proper : (FileNode.folder entries).Proper) :
    (emitted files folder).value.Pairwise fun left right =>
      Path.componentBytes left < Path.componentBytes right := by
  rw [emitted_of_find found, List.pairwise_map]
  refine proper.pairwise_filesBelow.imp_of_mem ?_
  intro left right leftListed rightListed less
  obtain ⟨leftBytes, leftHolds⟩ := FileNode.mem_filesBelow_iff.mp leftListed
  obtain ⟨rightBytes, rightHolds⟩ := FileNode.mem_filesBelow_iff.mp rightListed
  rw [FileNode.componentBytes_intercalate (leftHolds.isEntryName proper),
    FileNode.componentBytes_intercalate (rightHolds.isEntryName proper)]
  exact less

/-- Where nothing is found, nothing is listed.  The list of a folder without impossible or repeated
names holds the path of each file below the folder and nothing else, no path twice, in the
increasing order of their components as bytes; and each path names its file. -/
theorem emitted_lists_each :
    (∀ (files : FileSystem) (folder : List Char) (fault : ReadFault),
      files.find folder = .error fault → (emitted files folder).value = []) ∧
    ∀ (files : FileSystem) (folder : List Char) (entries : List (List Char × FileNode)),
      files.find folder = .ok (.folder entries) → (FileNode.folder entries).Proper →
      (emitted files folder).value.Nodup ∧
      ((emitted files folder).value.Pairwise fun left right =>
        Path.componentBytes left < Path.componentBytes right) ∧
      (∀ path ∈ (emitted files folder).value, ∃ way bytes,
        (FileNode.folder entries).Holds way bytes ∧ NamesFile files folder way bytes path) ∧
      ∀ way bytes, (FileNode.folder entries).Holds way bytes →
        ∃ path ∈ (emitted files folder).value, NamesFile files folder way bytes path := by
  refine ⟨fun files folder fault => emitted_of_fault, ?_⟩
  intro files folder entries found proper
  have increasing := pairwise_emitted found proper
  refine ⟨?distinct, increasing, ?sound, ?complete⟩
  case distinct =>
    refine increasing.imp ?_
    rintro left _ less rfl
    exact List.lt_irrefl _ less
  case sound =>
    intro path listed
    obtain ⟨way, bytes, holds, rfl⟩ := (mem_emitted_iff found).mp listed
    exact ⟨way, bytes, holds, namesFile_intercalate found proper holds⟩
  case complete =>
    intro way bytes holds
    exact ⟨_, (mem_emitted_iff found).mpr ⟨way, bytes, holds, rfl⟩,
      namesFile_intercalate found proper holds⟩

/-- The entries of a folder in which a slash comes before a dot, although it is the later
character. -/
def slashBeforeDot : List (List Char × FileNode) :=
  [("a.js".toList, .file [1]), ("a".toList, .folder [("b".toList, .file [2])])]

/-- The folder `a` is listed before the file `a.js`. -/
theorem emitted_lists_each_slashBeforeDot :
    (FileNode.folder slashBeforeDot).Proper ∧
    (emitted { top := .folder [("dist".toList, .folder slashBeforeDot)] } "dist".toList).value =
      ["a/b".toList, "a.js".toList] ∧
    ∃ path ∈ ["a/b".toList, "a.js".toList],
      NamesFile { top := .folder [("dist".toList, .folder slashBeforeDot)] } "dist".toList
        ["a".toList, "b".toList] [2] path := by
  have proper : (FileNode.folder slashBeforeDot).Proper := by
    refine .folder (by decide) (by decide) ?_
    intro entry member
    simp only [slashBeforeDot, List.mem_cons, List.not_mem_nil, or_false] at member
    rcases member with rfl | rfl
    · exact .file _
    · refine .folder (by decide) (by decide) ?_
      intro inner innerMember
      rw [List.mem_singleton.mp innerMember]
      exact .file _
  have listed : (emitted { top := .folder [("dist".toList, .folder slashBeforeDot)] }
      "dist".toList).value = ["a/b".toList, "a.js".toList] := by
    decide
  obtain ⟨_, _, _, complete⟩ := emitted_lists_each.2
    { top := .folder [("dist".toList, .folder slashBeforeDot)] } "dist".toList slashBeforeDot rfl
    proper
  rw [listed] at complete
  refine ⟨proper, listed, complete _ _ ?_⟩
  exact .inside (List.mem_cons_of_mem _ List.mem_cons_self) (.inside List.mem_cons_self (.here _))

end Session

end EditionGuard
