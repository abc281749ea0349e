import EditionGuard.Proofs.Session.Place
import EditionGuard.Proofs.SourceMap.Order
import EditionGuard.Proofs.Text.Slice
import EditionGuard.Proofs.Text.Utf16
import Mathlib.Data.List.DropRight

/-!
# The unit of columns

Source maps count columns in units of UTF-16, and failures count them in characters.  The place
that is looked up for a failure is the one that the map means just when no character before it on
its line lies beyond U+FFFF.  Otherwise the column is too small, and the token that is found is the
one that covers the failure just when no token of the line stands between the two columns.
-/

namespace EditionGuard

namespace Text

theorem exists_append_lastLine (text : List Char) :
    ∃ lines, text = lines ++ lastLine text ∧ (lines = [] ∨ lines.getLast? = some '\n') := by
  refine ⟨text.rdropWhile (· != '\n'), List.rdropWhile_append_rtakeWhile.symm, ?_⟩
  by_cases empty : text.rdropWhile (· != '\n') = []
  · exact Or.inl empty
  · have stops := List.rdropWhile_last_not (· != '\n') text empty
    refine Or.inr ?_
    rw [List.getLast?_eq_some_getLast empty]
    simpa using stops

end Text

namespace Gate

/-- A failure stands behind whole lines of a text and the beginning of one more. -/
structure Failure.StandsBehind (failure : Failure) (code lines line rest : List Char) : Prop where
  split : code = lines ++ line ++ rest
  whole : lines = [] ∨ lines.getLast? = some '\n'
  unbroken : '\n' ∉ line
  byteOffset : Text.byteLength (lines ++ line) = failure.byteOffset

theorem exists_standsBehind_of_check {code : List Char} {target : Edition} {goal : Script.Goal}
    {failure : Failure} (failed : check code target goal = some failure) :
    ∃ lines line rest, failure.StandsBehind code lines line rest ∧
      failure.position = ⟨lines.count '\n' + 1, line.length⟩ := by
  obtain ⟨read, rejected, isCode, rejects, isPosition⟩ := exists_split_of_check failed
  obtain ⟨lines, isRead, whole⟩ := Text.exists_append_lastLine read
  have unbroken := Text.not_mem_lastLine read
  have lineCount : read.count '\n' = lines.count '\n' := by
    conv => lhs; rw [isRead]
    rw [List.count_append, List.count_eq_zero.mpr unbroken, Nat.add_zero]
  have length : Text.byteLength read = failure.byteOffset := by
    obtain ⟨front, split, length⟩ := Text.dropBytes_eq_some_iff.mp rejects
    rw [isCode] at split
    rw [List.append_cancel_right split, length]
  refine ⟨lines, Text.lastLine read, rejected, ⟨?_, whole, unbroken, ?_⟩, ?_⟩
  · rw [← isRead, isCode]
  · rw [← isRead, length]
  · rw [isPosition, Text.Position.behind, lineCount]

end Gate

namespace SourceMap

theorem Covers.covers_further_iff {map : SourceMap} {line column further : Nat} {token : Token}
    (covers : map.Covers line column token) (le : column ≤ further) :
    map.Covers line further token ↔
      ∀ other ∈ map.tokens, other.line = line → other.column ≤ further →
        other.column ≤ column := by
  constructor
  · intro coversFurther other listed sameLine reaches
    exact Nat.le_trans (coversFurther.greatest other listed sameLine reaches) covers.reaches
  · intro noneBetween
    refine ⟨covers.mem, covers.line_eq, Nat.le_trans covers.reaches le, ?_⟩
    intro other listed sameLine reaches
    exact covers.greatest other listed sameLine (noneBetween other listed sameLine reaches)

end SourceMap

open SourceMap in
/-- The column that is looked up for a failure is short of the column in UTF-16 by the characters
beyond U+FFFF in front of it on its line.  The token that locates the failure is the one that
covers it, unless a token of the line stands in between. -/
theorem check_lookup_column {code : List Char} {target : Edition} {goal : Script.Goal}
    {failure : Gate.Failure} (failed : Gate.check code target goal = some failure) :
    ∃ lines line rest, failure.StandsBehind code lines line rest ∧
      failure.position.line = lines.count '\n' + 1 ∧
      failure.position.column + line.countP Text.isSupplementary = Text.utf16Length line ∧
      (failure.position.column = Text.utf16Length line ↔
        ∀ char ∈ line, char.toNat ≤ 0xFFFF) ∧
      ∀ bytes map, read? bytes = some map → ∀ output view source,
        map.locate output view failure = .ok (some source) →
          ∃ token index name, map.Gives output view failure token index name source ∧
            (map.Covers (failure.position.line - 1) (Text.utf16Length line) token ↔
              ∀ other ∈ map.tokens, other.line = failure.position.line - 1 →
                other.column ≤ Text.utf16Length line →
                  other.column ≤ failure.position.column) := by
  obtain ⟨lines, line, rest, stands, isPosition⟩ := Gate.exists_standsBehind_of_check failed
  have column : failure.position.column = line.length := by rw [isPosition]
  have units := Text.utf16Length_eq_add_countP line
  refine ⟨lines, line, rest, stands, by rw [isPosition], by omega, ?_, ?_⟩
  · rw [column, eq_comm]
    exact Text.utf16Length_eq_length_iff
  · intro bytes map read output view source located
    obtain ⟨token, index, name, gives⟩ := locate_eq_some_iff.mp located
    have covers := gives.governs.covers (isOrdered_of_read? read)
    exact ⟨token, index, name, gives, covers.covers_further_iff (by omega)⟩

/-- A text whose second statement stands behind a character beyond U+FFFF. -/
def smileOutput : OutputFile := ⟨"/a.js".toList, "s=\"😀\";let a".toList⟩

def smileFailure : Gate.Failure :=
  ⟨"Unexpected token: `let` declaration requires es2015", 9, ⟨1, 6⟩⟩

def twoSourceMap : List UInt8 :=
  ("\x7b\"sources\":[\"src/a.js\",\"src/b.js\"],\"names\":[]," ++
    "\"mappings\":\"AAAA,OCAA\"\x7d").toUTF8.toList

theorem check_lookup_column_smile :
    ∃ lines line rest map source token index name,
      Gate.check smileOutput.code .es5 .unambiguous = some smileFailure ∧
      smileFailure.StandsBehind smileOutput.code lines line rest ∧
      smileFailure.position.column + line.countP Text.isSupplementary = Text.utf16Length line ∧
      SourceMap.read? twoSourceMap = some map ∧
      map.Gives smileOutput ⟨['/'], false⟩ smileFailure token index name source := by
  let map : SourceMap := ⟨["src/a.js".toList, "src/b.js".toList], [],
    [⟨0, 0, some 0, 0, 0, false⟩, ⟨0, 7, some 1, 0, 0, false⟩]⟩
  have failed : Gate.check smileOutput.code .es5 .unambiguous = some smileFailure := by
    decide +kernel
  have read : SourceMap.read? twoSourceMap = some map := by decide +kernel
  obtain ⟨source, located⟩ : ∃ source,
      map.locate smileOutput ⟨['/'], false⟩ smileFailure = .ok (some source) := ⟨_, rfl⟩
  obtain ⟨lines, line, rest, stands, -, units, -, locates⟩ := check_lookup_column failed
  obtain ⟨token, index, name, gives, -⟩ := locates _ map read _ _ source located
  exact ⟨lines, line, rest, map, source, token, index, name, failed, stands, units, read, gives⟩

/-- The failure of the second statement is shown in the source of the first one. -/
theorem locates_failure_in_other_source :
    ∃ map source token, Gate.check smileOutput.code .es5 .unambiguous = some smileFailure ∧
      smileFailure.StandsBehind smileOutput.code [] "s=\"😀\";".toList "let a".toList ∧
      SourceMap.read? twoSourceMap = some map ∧
      map.locate smileOutput ⟨['/'], false⟩ smileFailure = .ok (some source) ∧
      source.path = "src/a.js" ∧
      map.Covers 0 (Text.utf16Length "s=\"😀\";".toList) token ∧
      token.source.bind map.source? = some "src/b.js".toList := by
  let token : SourceMap.Token := ⟨0, 7, some 1, 0, 0, false⟩
  let map : SourceMap := ⟨["src/a.js".toList, "src/b.js".toList], [],
    [⟨0, 0, some 0, 0, 0, false⟩, token]⟩
  have path : (map.locate smileOutput ⟨['/'], false⟩ smileFailure).toOption.map
      (fun source? => source?.map (·.path)) = some (some "src/a.js") := by
    decide +kernel
  obtain ⟨source?, located, isFound⟩ := exists_of_map_toOption_eq_some path
  obtain ⟨source, rfl, isPath⟩ := Option.map_eq_some_iff.mp isFound
  refine ⟨map, source, token, by decide +kernel, ⟨rfl, Or.inl rfl, by decide, by decide⟩,
    by decide +kernel, located, isPath, ⟨by decide, rfl, by decide, by decide⟩, rfl⟩

end EditionGuard
