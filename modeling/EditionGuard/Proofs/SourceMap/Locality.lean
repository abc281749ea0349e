import EditionGuard.Proofs.SourceMap.Order

/-!
# Lookups stay on the line

What a map that can be read says about a failure hangs on its tokens on the line of the failure
alone; tokens of other lines are never taken for it.  The location is that of the last token that
the failure reaches on its line.  A token for a range is moved on in its source by the columns
between it and the failure, all others are taken as they are.
-/

namespace EditionGuard.SourceMap

variable {map other : SourceMap} {output : OutputFile} {view : View} {failure : Gate.Failure}

theorem locate_onLine (ordered : map.IsOrdered) :
    (map.onLine (failure.position.line - 1)).locate output view failure =
      map.locate output view failure := by
  rw [locate, locate, origin?, origin?, lookup_onLine ordered]
  rfl

theorem Token.columnFor_of_isRange_eq_false {token : Token} (single : token.isRange = false)
    (column : Nat) : token.columnFor column = token.sourceColumn := by
  rw [columnFor, single]
  rfl

theorem Token.columnFor_of_isRange {token : Token} (isRange : token.isRange = true)
    (column : Nat) : token.columnFor column =
      min (token.sourceColumn + (column - token.column)) (Word.count32 - 1) := by
  rw [columnFor, if_pos isRange]

/-- Maps with the same sources and the same tokens on a line locate the failures of the line alike,
by the last token that a failure reaches. -/
theorem locate_of_sameLine {bytes otherBytes : List UInt8} (read : read? bytes = some map)
    (otherRead : read? otherBytes = some other) (sources : other.sources = map.sources)
    (contents : other.contents = map.contents)
    (tokens : other.tokensOn (failure.position.line - 1) =
      map.tokensOn (failure.position.line - 1)) :
    other.locate output view failure = map.locate output view failure ∧
      ∀ source, map.locate output view failure = .ok (some source) →
        ∃ token index name, map.Gives output view failure token index name source ∧
          map.Covers (failure.position.line - 1) failure.position.column token ∧
          source.line = token.sourceLine + 1 ∧
          (token.isRange = false → source.column = token.sourceColumn) ∧
          (token.isRange = true → source.column =
            min (token.sourceColumn + (failure.position.column - token.column))
              (Word.count32 - 1)) := by
  have ordered := isOrdered_of_read? read
  constructor
  · have sameLine : other.onLine (failure.position.line - 1) =
        map.onLine (failure.position.line - 1) := by
      rw [onLine, onLine, tokens, sources, contents]
    rw [← locate_onLine ordered, ← locate_onLine (isOrdered_of_read? otherRead), sameLine]
  · intro source located
    obtain ⟨token, index, name, gives⟩ := locate_eq_some_iff.mp located
    refine ⟨token, index, name, gives, gives.governs.covers ordered, gives.line, ?_, ?_⟩
    · intro single
      rw [gives.column, Token.columnFor_of_isRange_eq_false single]
    · intro isRange
      rw [gives.column, Token.columnFor_of_isRange isRange]

def twoLineMap : List UInt8 :=
  "\x7b\"sources\":[\"src/a.js\"],\"names\":[],\"mappings\":\"AACA;AADA\"\x7d".toUTF8.toList

def secondLineMap : List UInt8 :=
  "\x7b\"sources\":[\"src/a.js\"],\"names\":[],\"mappings\":\";AAAA\"\x7d".toUTF8.toList

def twoLineOutput : OutputFile := ⟨"/a.js".toList, "x;\na?.b".toList⟩

theorem locate_of_sameLine_secondLine :
    ∃ map other, read? twoLineMap = some map ∧ read? secondLineMap = some other ∧
      map.tokens ≠ other.tokens ∧
      other.locate twoLineOutput ⟨['/'], false⟩ (.atOffset twoLineOutput.code 4 "") =
        map.locate twoLineOutput ⟨['/'], false⟩ (.atOffset twoLineOutput.code 4 "") ∧
      ∃ token, map.Covers 1 1 token := by
  let own : Token := ⟨1, 0, some 0, 0, 0, false⟩
  let map : SourceMap := ⟨["src/a.js".toList], [], [⟨0, 0, some 0, 1, 0, false⟩, own]⟩
  let other : SourceMap := ⟨["src/a.js".toList], [], [own]⟩
  have read : read? twoLineMap = some map := by decide +kernel
  have otherRead : read? secondLineMap = some other := by decide +kernel
  obtain ⟨same, location⟩ :=
    @locate_of_sameLine map other twoLineOutput ⟨['/'], false⟩ (.atOffset twoLineOutput.code 4 "")
      twoLineMap secondLineMap read otherRead rfl rfl (by decide)
  obtain ⟨source, located⟩ : ∃ source,
      map.locate twoLineOutput ⟨['/'], false⟩ (.atOffset twoLineOutput.code 4 "") =
        .ok (some source) := ⟨_, rfl⟩
  obtain ⟨token, _, _, _, covers, _⟩ := location source located
  exact ⟨map, other, read, otherRead, by decide, same, token, covers⟩

def rangeMap : List UInt8 :=
  ("\x7b\"sources\":[\"src/a.js\"],\"names\":[],\"mappings\":\"AAAA\"," ++
    "\"rangeMappings\":\"B\"\x7d").toUTF8.toList

/-- For a range, the column of a location can be that of no token. -/
theorem locate_moves_range :
    ∃ map source, read? rangeMap = some map ∧
      map.locate twoLineOutput ⟨['/'], false⟩ (.atOffset twoLineOutput.code 1 "") =
        .ok (some source) ∧
      ∀ token ∈ map.tokens, source.column ≠ token.sourceColumn := by
  let map : SourceMap := ⟨["src/a.js".toList], [], [⟨0, 0, some 0, 0, 0, true⟩]⟩
  have column : (map.locate twoLineOutput ⟨['/'], false⟩
      (.atOffset twoLineOutput.code 1 "")).toOption.map (fun source? => source?.map (·.column)) =
        some (some 1) := by
    decide +kernel
  obtain ⟨source?, located, atOne⟩ := exists_of_map_toOption_eq_some column
  obtain ⟨source, rfl, isOne⟩ := Option.map_eq_some_iff.mp atOne
  refine ⟨map, source, by decide +kernel, located, fun token member => ?_⟩
  obtain rfl := List.mem_singleton.mp member
  rw [isOne]
  exact Nat.one_ne_zero

end EditionGuard.SourceMap
