import EditionGuard.Proofs.Path.Join
import EditionGuard.Proofs.Text.Cut

/-!
# Extensions of paths

A path that ends in a dot and some letters has a file name that ends so, and no other extension
than these letters.
-/

namespace EditionGuard.Path

theorem intercalate_names (path : List Char) : List.intercalate ['/'] (names path) = path := by
  rw [names, Text.splitAt_eq_splitOn]
  exact List.intercalate_splitOn '/'

theorem ofName?_of_length {name : List Char} (long : 3 ≤ name.length) :
    Component.ofName? name = some (.normal name) := by
  unfold Component.ofName?
  split
  · simp at long
  · simp at long
  · simp at long
  · rfl

theorem exists_fileName?_of_suffix {ending path : List Char} (whole : '/' ∉ ending)
    (long : 3 ≤ ending.length) (ends : ending <:+ path) :
    ∃ name, fileName? path = some name ∧ ending <:+ name := by
  have someName : names path ≠ [] := by
    rw [names, Text.splitAt_eq_splitOn]
    exact List.splitOn_ne_nil '/' path
  obtain ⟨front, last, cut⟩ := (List.eq_nil_or_concat (names path)).resolve_left someName
  rw [List.concat_eq_append] at cut
  rw [← intercalate_names path, cut, suffix_intercalate_iff whole] at ends
  have isPart : Component.ofName? last = some (.normal last) :=
    ofName?_of_length (long.trans ends.length_le)
  refine ⟨last, ?_, ends⟩
  rw [fileName?, components, cut, List.filterMap_append, List.filterMap_cons_some isPart,
    List.filterMap_nil, ← List.append_assoc, List.getLast?_concat]

theorem extension?_of_suffix {letters path extension : List Char} (noSlash : '/' ∉ letters)
    (noDot : '.' ∉ letters) (long : 2 ≤ letters.length) (ends : '.' :: letters <:+ path)
    (found : extension? path = some extension) : extension = letters := by
  have whole : '/' ∉ '.' :: letters := by simpa using noSlash
  obtain ⟨name, isName, front, rfl⟩ :=
    exists_fileName?_of_suffix whole (Nat.succ_le_succ long) ends
  have behindDot : (front ++ '.' :: letters).reverse.takeWhile (· != '.') = letters.reverse := by
    have turned : '.' ∉ letters.reverse := mt List.mem_reverse.mp noDot
    rw [List.reverse_append, List.reverse_cons, List.append_assoc,
      Text.takeWhile_ne_append turned]
    simp
  rw [extension?, isName, Option.bind_some, behindDot] at found
  simp only [List.reverse_reverse] at found
  split at found
  · exact (Option.some.inj found).symm
  · cases found

end EditionGuard.Path
