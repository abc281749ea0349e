import EditionGuard.Proofs.Except
import EditionGuard.Proofs.SourceMap.Range
import EditionGuard.Session.Finding

/-!
# Attribution through source maps

A failure of an output is attributed to the source of the token that governs its place, if the
map beside the output can be read and this token has a source.  In all other cases, whether the
map is absent, cannot be read, is no map or says nothing about the place, the finding is the one
of an output without a map.  The place in the output is never lost: it stands in the finding,
as its source or beside it.  Only a token on the last source line of 32 bits leads nowhere.
-/

namespace EditionGuard

namespace SourceMap

/-- Whether a place belongs to a token: the token is the first that stands at the place, or
else, where none does, the last that stands before the place, on the same line. -/
def Governs (map : SourceMap) (line column : Nat) (token : Token) : Prop :=
  token.line = line ∧
    ∃ earlier later, map.tokens = earlier ++ token :: later ∧
      ((token.column = column ∧ ∀ other ∈ earlier, other.isAt line column = false) ∨
        (token.column < column ∧
          (∀ other ∈ map.tokens, other.isAt line column = false) ∧
          ∀ other ∈ later, other.isBefore line column = false))

/-- Whether a token with a source stands on the line of a failure, at its column or before. -/
def Reaches (map : SourceMap) (failure : Gate.Failure) : Prop :=
  ∃ token ∈ map.tokens, token.line = failure.position.line - 1 ∧
    token.column ≤ failure.position.column ∧
    ∃ index name, token.source = some index ∧ map.source? index = some name

/-- Whether a map gives a location for a failure by a token that governs its place. -/
structure Gives (map : SourceMap) (output : OutputFile) (view : View) (failure : Gate.Failure)
    (token : Token) (index : Nat) (name : List Char) (source : SourceLocation) : Prop where
  governs : map.Governs (failure.position.line - 1) failure.position.column token
  hasSource : token.source = some index
  isNamed : map.source? index = some name
  absolutePath : source.absolutePath = String.ofList
    ((SourceName.ofText name).path ((Path.parent? output.mapPath).getD []) view.root)
  path : source.path = String.ofList (Path.display source.absolutePath.toList view.root)
  hasLine : token.sourceLine + 1 < Word.count32
  line : source.line = token.sourceLine + 1
  column : source.column = token.columnFor failure.position.column
  code : source.code = String.ofList
    (((map.content? index).map fun content =>
      Text.frame (Text.lines content) token.sourceLine view.colour).getD
        (output.excerpt view failure))

/-- Whether a map gives a location for a failure. -/
def Attributes (map : SourceMap) (output : OutputFile) (view : View) (failure : Gate.Failure)
    (source : SourceLocation) : Prop :=
  ∃ token index name, map.Gives output view failure token index name source

/-- Whether a map leads a failure to the last source line of 32 bits, which has no number. -/
def LeadsBeyond (map : SourceMap) (failure : Gate.Failure) : Prop :=
  ∃ token index name, map.Governs (failure.position.line - 1) failure.position.column token ∧
    token.source = some index ∧ map.source? index = some name ∧
    token.sourceLine + 1 = Word.count32

/-! ## Looking a place up -/

theorem find?_reverse_isBefore_eq_some_iff {tokens : List Token} {line column : Nat}
    {token : Token} :
    (tokens.reverse.find? fun token => token.isBefore line column) = some token ↔
      token.isBefore line column ∧
        ∃ earlier later, tokens = earlier ++ token :: later ∧
          ∀ other ∈ later, other.isBefore line column = false := by
  rw [List.find?_eq_some_iff_append]
  refine and_congr_right fun _ => ?_
  constructor
  · rintro ⟨behind, front, reversed, noneBehind⟩
    refine ⟨front.reverse, behind.reverse, ?_, ?_⟩
    · have turned := congrArg List.reverse reversed
      simpa using turned
    · intro other member
      simpa using noneBehind other (List.mem_reverse.mp member)
  · rintro ⟨earlier, later, rfl, noneLater⟩
    refine ⟨later.reverse, earlier.reverse, by simp, ?_⟩
    intro other member
    simpa using noneLater other (List.mem_reverse.mp member)

/-- Looking a place up finds the token that governs it. -/
theorem lookup_eq_some_iff {map : SourceMap} {line column : Nat} {token : Token} :
    map.lookup line column = some token ↔ map.Governs line column token := by
  rw [lookup, Option.filter_eq_some_iff, Option.or_eq_some_iff,
    find?_reverse_isBefore_eq_some_iff, List.find?_eq_some_iff_append, List.find?_eq_none,
    beq_iff_eq]
  constructor
  · rintro ⟨⟨stands, earlier, later, tokens, noneEarlier⟩ |
      ⟨noneStands, before, earlier, later, tokens, noneLater⟩, onLine⟩
    · have atPlace : token.line = line ∧ token.column = column := by
        simpa [Token.isAt] using stands
      exact ⟨onLine, earlier, later, tokens, Or.inl ⟨atPlace.2, by simpa using noneEarlier⟩⟩
    · have beforePlace : token.column < column := by
        simpa [Token.isBefore, onLine] using before
      exact ⟨onLine, earlier, later, tokens,
        Or.inr ⟨beforePlace, by simpa using noneStands, noneLater⟩⟩
  · rintro ⟨onLine, earlier, later, tokens,
      ⟨atColumn, noneEarlier⟩ | ⟨beforeColumn, noneStands, noneLater⟩⟩
    · refine ⟨Or.inl ⟨?_, earlier, later, tokens, by simpa using noneEarlier⟩, onLine⟩
      simp [Token.isAt, onLine, atColumn]
    · refine ⟨Or.inr ⟨by simpa using noneStands, ?_, earlier, later, tokens, noneLater⟩,
        onLine⟩
      simp [Token.isBefore, onLine, beforeColumn]

theorem Governs.mem {map : SourceMap} {line column : Nat} {token : Token}
    (governs : map.Governs line column token) : token ∈ map.tokens := by
  obtain ⟨_, earlier, later, tokens, _⟩ := governs
  rw [tokens]
  exact List.mem_append_right earlier List.mem_cons_self

theorem origin?_eq_some_iff {map : SourceMap} {line column : Nat} {token : Token} {index : Nat}
    {name : List Char} :
    map.origin? line column = some (token, index, name) ↔
      map.Governs line column token ∧ token.source = some index ∧
        map.source? index = some name := by
  simp only [origin?, Option.bind_eq_bind, Option.bind_eq_some_iff, lookup_eq_some_iff]
  constructor
  · rintro ⟨_, governs, _, hasSource, _, isNamed, same⟩
    cases same
    exact ⟨governs, hasSource, isNamed⟩
  · rintro ⟨governs, hasSource, isNamed⟩
    exact ⟨token, governs, index, hasSource, name, isNamed, rfl⟩

section Locate

variable {map : SourceMap} {output : OutputFile} {view : View} {failure : Gate.Failure}
  {source : SourceLocation}

theorem locate_eq_some_iff :
    map.locate output view failure = .ok (some source) ↔
      map.Attributes output view failure source := by
  constructor
  · intro located
    rw [locate] at located
    split at located
    · cases located
    · rename_i token index name origin
      obtain ⟨governs, hasSource, isNamed⟩ := origin?_eq_some_iff.mp origin
      obtain ⟨line, numbered, made⟩ := exists_of_bind_eq_ok located
      obtain ⟨hasLine, rfl⟩ := Word.nextLine_eq_ok_iff.mp numbered
      cases made
      refine ⟨token, index, name, governs, hasSource, isNamed, rfl, ?_, hasLine, rfl, rfl, ?_⟩
      · simp
      · cases map.content? index <;> rfl
  · rintro ⟨token, index, name, gives⟩
    have origin := origin?_eq_some_iff.mpr ⟨gives.governs, gives.hasSource, gives.isNamed⟩
    have numbered := Word.nextLine_eq_ok_iff.mpr ⟨gives.hasLine, gives.line⟩
    obtain ⟨path, line, column, absolutePath, code⟩ := source
    have samePath := gives.path
    have sameAbsolute := gives.absolutePath
    have sameColumn := gives.column
    have sameCode := gives.code
    simp only at numbered samePath sameAbsolute sameColumn sameCode
    subst sameAbsolute sameColumn sameCode samePath
    simp only [locate, origin, numbered]
    cases map.content? index <;> simp [ok_bind, pure, Except.pure]

theorem locate_eq_error_iff (fits : map.Fits) {stop : Overflow} :
    map.locate output view failure = .error stop ↔ map.LeadsBeyond failure := by
  constructor
  · intro stopped
    rw [locate] at stopped
    split at stopped
    · cases stopped
    · rename_i token index name origin
      obtain ⟨governs, hasSource, isNamed⟩ := origin?_eq_some_iff.mp origin
      refine ⟨token, index, name, governs, hasSource, isNamed, ?_⟩
      have isLine := (fits token governs.mem).line
      have beyond : Word.count32 ≤ token.sourceLine + 1 := by
        apply (@Word.nextLine_eq_error_iff _ stop).mp
        cases numbered : Word.nextLine token.sourceLine with
        | ok line =>
            rw [numbered] at stopped
            cases stopped
        | error other => rfl
      omega
  · rintro ⟨token, index, name, governs, hasSource, isNamed, beyond⟩
    have origin := origin?_eq_some_iff.mpr ⟨governs, hasSource, isNamed⟩
    have numbered := (@Word.nextLine_eq_error_iff _ stop).mpr (Nat.le_of_eq beyond.symm)
    simp only [locate, origin, numbered, error_bind]

end Locate

theorem Governs.reaches {map : SourceMap} {failure : Gate.Failure} {token : Token} {index : Nat}
    {name : List Char}
    (governs : map.Governs (failure.position.line - 1) failure.position.column token)
    (hasSource : token.source = some index) (isNamed : map.source? index = some name) :
    map.Reaches failure := by
  obtain ⟨onLine, _, _, _, places⟩ := id governs
  refine ⟨token, governs.mem, onLine, ?_, index, name, hasSource, isNamed⟩
  rcases places with ⟨atColumn, _⟩ | ⟨beforeColumn, _⟩
  · exact Nat.le_of_eq atColumn
  · exact Nat.le_of_lt beforeColumn

theorem Attributes.reaches {map : SourceMap} {output : OutputFile} {view : View}
    {failure : Gate.Failure} {source : SourceLocation}
    (attributes : map.Attributes output view failure source) : map.Reaches failure := by
  obtain ⟨token, index, name, gives⟩ := attributes
  exact gives.governs.reaches gives.hasSource gives.isNamed

theorem LeadsBeyond.reaches {map : SourceMap} {failure : Gate.Failure}
    (beyond : map.LeadsBeyond failure) : map.Reaches failure := by
  obtain ⟨token, index, name, governs, hasSource, isNamed, _⟩ := beyond
  exact governs.reaches hasSource isNamed

end SourceMap

/-! ## Findings -/

namespace OutputFile

/-- Whether the file beside an output can be read, as a map. -/
def HasMap (files : FileSystem) (output : OutputFile) (map : SourceMap) : Prop :=
  ∃ bytes, files.readBytes output.mapPath = .ok bytes ∧ SourceMap.read? bytes = some map

theorem map_value_eq_some_iff {files : FileSystem} {output : OutputFile} {map : SourceMap} :
    (output.map files).value = some map ↔ output.HasMap files map := by
  rw [OutputFile.map, HasMap]
  cases read : files.readBytes output.mapPath with
  | error fault => cases fault <;> simp
  | ok bytes =>
      cases decoded : SourceMap.read? bytes with
      | none => simp [decoded]
      | some other => simp [decoded]

theorem HasMap.unique {files : FileSystem} {output : OutputFile} {map other : SourceMap}
    (hasMap : output.HasMap files map) (otherMap : output.HasMap files other) : other = map := by
  have value := map_value_eq_some_iff.mpr hasMap
  rw [map_value_eq_some_iff.mpr otherMap] at value
  exact Option.some.inj value

theorem HasMap.fits {files : FileSystem} {output : OutputFile} {map : SourceMap}
    (hasMap : output.HasMap files map) : map.Fits := by
  obtain ⟨bytes, _, decoded⟩ := hasMap
  exact SourceMap.fits_of_read? decoded

section Source

variable {files : FileSystem} {view : View} {output : OutputFile} {failure : Gate.Failure}

theorem source?_eq_some_iff {source : SourceLocation} :
    output.source? files view failure = .ok (some source) ↔
      ∃ map, output.HasMap files map ∧ map.Attributes output view failure source := by
  simp only [← map_value_eq_some_iff, ← SourceMap.locate_eq_some_iff]
  rw [source?]
  cases (output.map files).value <;> simp

theorem source?_eq_error_iff {stop : Overflow} :
    output.source? files view failure = .error stop ↔
      ∃ map, output.HasMap files map ∧ map.LeadsBeyond failure := by
  constructor
  · intro stopped
    rw [source?] at stopped
    cases isMap : (output.map files).value with
    | none =>
        rw [isMap] at stopped
        cases stopped
    | some map =>
        rw [isMap] at stopped
        have hasMap := map_value_eq_some_iff.mp isMap
        exact ⟨map, hasMap, (SourceMap.locate_eq_error_iff hasMap.fits).mp stopped⟩
  · rintro ⟨map, hasMap, beyond⟩
    rw [source?, map_value_eq_some_iff.mpr hasMap]
    exact (SourceMap.locate_eq_error_iff hasMap.fits).mpr beyond

end Source

end OutputFile

namespace Incompatibility

variable {files bare : FileSystem} {view : View} {output : OutputFile} {failure : Gate.Failure}

def unmapped (view : View) (output : OutputFile) (failure : Gate.Failure) : Incompatibility :=
  ⟨failure.message, output.location view failure, none⟩

theorem locate_eq_error_iff {stop : Overflow} :
    locate files view output failure = .error stop ↔
      ∃ map, output.HasMap files map ∧ map.LeadsBeyond failure := by
  rw [← @OutputFile.source?_eq_error_iff files view output failure stop, locate]
  cases output.source? files view failure with
  | error other => simp only [error_bind]
  | ok source? => exact iff_of_false nofun nofun

/-- The source of a finding is the one that the map beside the output gives, or else the finding
is the one of an output without a map. -/
theorem value_of_locate_eq_ok {error : Incompatibility}
    (isLocated : (locate files view output failure).map Logged.value = .ok error) :
    (∃ map source, output.HasMap files map ∧ map.Attributes output view failure source ∧
      error = ⟨failure.message, source, some (output.location view failure).location⟩) ∨
    (∀ map source, output.HasMap files map → ¬ map.Attributes output view failure source) ∧
      error = unmapped view output failure := by
  obtain ⟨located, made, rfl⟩ := exists_of_map_eq_ok isLocated
  obtain ⟨source?, found, filled⟩ := exists_of_bind_eq_ok made
  cases filled
  cases source? with
  | none =>
      refine Or.inr ⟨?_, rfl⟩
      intro map source hasMap attributes
      have isSource := OutputFile.source?_eq_some_iff.mpr ⟨map, hasMap, attributes⟩
      rw [found] at isSource
      cases isSource
  | some source =>
      obtain ⟨map, hasMap, attributes⟩ := OutputFile.source?_eq_some_iff.mp found
      exact Or.inl ⟨map, source, hasMap, attributes, rfl⟩

theorem ofFailure_noExclusions :
    (ofFailure files view {} {} output failure).map Logged.value =
      (locate files view output failure).map fun located => some located.value := by
  rw [ofFailure]
  cases locate files view output failure <;> rfl

theorem locate_of_ofFailure {sources messages : Exclusion} {error : Incompatibility}
    (found : (ofFailure files view sources messages output failure).map Logged.value =
      .ok (some error)) :
    (locate files view output failure).map Logged.value = .ok error := by
  obtain ⟨kept, isKept, isError⟩ := exists_of_map_eq_ok found
  obtain ⟨located, isLocated, rest⟩ := exists_of_bind_eq_ok isKept
  rw [isLocated, Except.map]
  split at rest
  · cases rest
    cases isError
  · cases rest
    rw [Option.some.inj isError]

theorem eq_unmapped_of_output_eq_none {error : Incompatibility}
    (isLocated : (locate files view output failure).map Logged.value = .ok error)
    (notMapped : error.output = none) : error = unmapped view output failure := by
  rcases value_of_locate_eq_ok isLocated with ⟨_, _, _, _, rfl⟩ | ⟨_, isUnmapped⟩
  · cases notMapped
  · exact isUnmapped

/-- Without a map that can be read, or without a token with a source at the place of a failure or
before it on its line, the failure is found where it is without a map. -/
theorem ofFailure_unmapped
    (outOfReach : ∀ map, output.HasMap files map → ¬ map.Reaches failure) :
    (ofFailure files view {} {} output failure).map Logged.value =
      .ok (some (unmapped view output failure)) := by
  rw [ofFailure_noExclusions]
  cases isLocated : locate files view output failure with
  | error stop =>
      obtain ⟨map, hasMap, beyond⟩ := locate_eq_error_iff.mp isLocated
      exact absurd beyond.reaches (outOfReach map hasMap)
  | ok located =>
      have value := congrArg (Except.map Logged.value) isLocated
      rcases value_of_locate_eq_ok value with ⟨map, source, hasMap, attributes, _⟩ | ⟨_, value⟩
      · exact absurd attributes.reaches (outOfReach map hasMap)
      · rw [Except.map, value]

/-- What a map changes of a finding is its source; the place in the output then stands beside it.
A map that cannot be read, that is none, or that has no token with a source at the place of the
failure or before it on its line changes nothing.  There is no finding exactly if the map leads to
the last source line of 32 bits. -/
theorem ofFailure_attribution (files : FileSystem) (view : View) (output : OutputFile)
    (failure : Gate.Failure) (noFile : ∀ bytes, bare.readBytes output.mapPath ≠ .ok bytes) :
    ∃ plain,
      plain = ⟨failure.message, output.location view failure, none⟩ ∧
      (ofFailure bare view {} {} output failure).map Logged.value = .ok (some plain) ∧
      (∀ fault, files.readBytes output.mapPath = .error fault →
        (ofFailure files view {} {} output failure).map Logged.value = .ok (some plain)) ∧
      (∀ bytes, files.readBytes output.mapPath = .ok bytes → SourceMap.read? bytes = none →
        (ofFailure files view {} {} output failure).map Logged.value = .ok (some plain)) ∧
      (∀ map, output.HasMap files map → ¬ map.Reaches failure →
        (ofFailure files view {} {} output failure).map Logged.value = .ok (some plain)) ∧
      (∀ stop, (ofFailure files view {} {} output failure).map Logged.value = .error stop ↔
        ∃ map, output.HasMap files map ∧ map.LeadsBeyond failure) ∧
      ∀ outcome, (ofFailure files view {} {} output failure).map Logged.value = .ok outcome →
        ∃ found, outcome = some found ∧
          (found = plain ∨
            found.message = plain.message ∧ found.output = some plain.source.location ∧
              ∃ map, output.HasMap files map ∧
                map.Attributes output view failure found.source) ∧
          (found.output.isSome ↔ ∃ map source, output.HasMap files map ∧
            map.Attributes output view failure source) := by
  refine ⟨unmapped view output failure, rfl, ?_, ?_, ?_, ?_, ?_, ?_⟩
  · apply ofFailure_unmapped
    rintro map ⟨bytes, read, decoded⟩
    exact absurd read (noFile bytes)
  · intro fault unreadable
    apply ofFailure_unmapped
    rintro map ⟨bytes, read, decoded⟩
    rw [unreadable] at read
    cases read
  · intro bytes read undecodable
    apply ofFailure_unmapped
    rintro map ⟨otherBytes, otherRead, decoded⟩
    rw [read] at otherRead
    cases otherRead
    rw [undecodable] at decoded
    cases decoded
  · intro map hasMap outOfReach
    apply ofFailure_unmapped
    intro other otherMap
    rwa [hasMap.unique otherMap]
  · intro stop
    rw [ofFailure_noExclusions, map_eq_error_iff, locate_eq_error_iff]
  · intro outcome isFound
    rw [ofFailure_noExclusions] at isFound
    obtain ⟨located, isLocated, rfl⟩ := exists_of_map_eq_ok isFound
    have value := congrArg (Except.map Logged.value) isLocated
    refine ⟨located.value, rfl, ?_⟩
    rcases value_of_locate_eq_ok value with
      ⟨map, source, hasMap, attributes, value⟩ | ⟨noSource, value⟩
    · rw [value]
      exact ⟨Or.inr ⟨rfl, rfl, map, hasMap, attributes⟩,
        iff_of_true rfl ⟨map, source, hasMap, attributes⟩⟩
    · rw [value]
      refine ⟨Or.inl rfl, iff_of_false (by simp [unmapped]) ?_⟩
      rintro ⟨map, source, hasMap, attributes⟩
      exact noSource map source hasMap attributes

/-- A file system with the map of an output whose first character comes from a source. -/
def besideMap : FileSystem where
  top := .folder [("a.js.map".toList, .file
    ("\x7b\"sources\":[\"src/a.js\"],\"names\":[],\"mappings\":\"AAAA\"\x7d".toUTF8.toList))]

def mappedOutput : OutputFile := ⟨"/a.js".toList, "let a".toList⟩

theorem ofFailure_attribution_besideMap :
    ∃ found,
      (ofFailure besideMap ⟨['/'], false⟩ {} {} mappedOutput
        (.atOffset mappedOutput.code 4 "")).map Logged.value = .ok (some found) ∧
      found.source.path = "src/a.js" ∧ found.output = some ⟨"a.js", 1, 4⟩ := by
  have noFile : ∀ bytes, ({} : FileSystem).readBytes mappedOutput.mapPath ≠ .ok bytes := by
    intro bytes
    have missing : ({} : FileSystem).readBytes mappedOutput.mapPath = .error .notFound := rfl
    rw [missing]
    exact nofun
  obtain ⟨plain, rfl, -, -, -, -, stops, outcomes⟩ :=
    ofFailure_attribution besideMap ⟨['/'], false⟩ mappedOutput
      (.atOffset mappedOutput.code 4 "") noFile
  let map : SourceMap := ⟨["src/a.js".toList], [], [⟨0, 0, some 0, 0, 0, false⟩]⟩
  have hasMap : mappedOutput.HasMap besideMap map := ⟨_, rfl, by decide +kernel⟩
  have path : ((map.locate mappedOutput ⟨['/'], false⟩
      (.atOffset mappedOutput.code 4 "")).toOption.map fun source => source.map (·.path)) =
        some (some "src/a.js") := by
    decide +kernel
  obtain ⟨located, isLocated, isPath⟩ := exists_of_map_toOption_eq_some path
  obtain ⟨source, rfl, samePath⟩ := Option.map_eq_some_iff.mp isPath
  have attributes := SourceMap.locate_eq_some_iff.mp isLocated
  cases isFound : (ofFailure besideMap ⟨['/'], false⟩ {} {} mappedOutput
      (.atOffset mappedOutput.code 4 "")).map Logged.value with
  | error stop =>
      obtain ⟨other, otherMap, beyond⟩ := (stops stop).mp isFound
      have stopped :=
        (@SourceMap.locate_eq_error_iff _ mappedOutput ⟨['/'], false⟩ _ otherMap.fits stop).mpr
          beyond
      rw [hasMap.unique otherMap, isLocated] at stopped
      cases stopped
  | ok outcome =>
      obtain ⟨found, rfl, same, mapped⟩ := outcomes _ isFound
      have given := mapped.mpr ⟨map, source, hasMap, attributes⟩
      rcases same with rfl | ⟨-, output, other, otherMap, given⟩
      · simp at given
      · have same := SourceMap.locate_eq_some_iff.mpr given
        rw [hasMap.unique otherMap, isLocated] at same
        cases same
        exact ⟨found, rfl, samePath, output⟩

/-- A file system with the map of an output whose first character comes from the last line of a
source that has 2^32 lines. -/
def lastLineMap : FileSystem where
  top := .folder [("a.js.map".toList, .file
    ("\x7b\"sources\":[\"src/a.js\"],\"names\":[],\"mappings\":\"AADA\"\x7d".toUTF8.toList))]

/-- A map that leads to the last line takes the place in the output away. -/
theorem ofFailure_loses_output :
    (ofFailure lastLineMap ⟨['/'], false⟩ {} {} mappedOutput
      (.atOffset mappedOutput.code 0 "")).map Logged.value = .error .line := by
  let map : SourceMap :=
    ⟨["src/a.js".toList], [], [⟨0, 0, some 0, Word.count32 - 1, 0, false⟩]⟩
  have hasMap : mappedOutput.HasMap lastLineMap map := ⟨_, rfl, by decide +kernel⟩
  have beyond : map.LeadsBeyond (.atOffset mappedOutput.code 0 "") :=
    ⟨_, 0, _, ⟨rfl, [], [], rfl, Or.inl ⟨rfl, by simp⟩⟩, rfl, rfl, by decide⟩
  rw [ofFailure_noExclusions, locate_eq_error_iff.mpr ⟨map, hasMap, beyond⟩]
  rfl

end Incompatibility

end EditionGuard
