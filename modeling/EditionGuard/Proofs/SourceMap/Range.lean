import EditionGuard.SourceMap.Reader
import Mathlib.Data.List.Basic

/-!
# The range of places in sources

Whatever bytes a source map is read from, the lines and columns that its tokens give in their
sources are numbers of 32 bits: each number in the mappings moves a cursor around in this range,
and joining the maps of parts leaves places in sources as they are.
-/

namespace EditionGuard.SourceMap

/-- Whether the place that a token gives in its source is one of 32 bits. -/
structure Token.Fits (token : Token) : Prop where
  line : token.sourceLine < Word.count32
  column : token.sourceColumn < Word.count32

structure Cursor.Fits (cursor : Cursor) : Prop where
  line : cursor.sourceLine < Word.count32
  column : cursor.sourceColumn < Word.count32

/-! ## Mappings -/

theorem moved_lt (value : Nat) (difference : Int) : moved value difference < Word.count32 := by
  have positive : (0 : Int) < Word.count32 := by decide
  have below := Int.emod_lt_of_pos (value + difference) positive
  have notNegative := Int.emod_nonneg (value + difference) (by omega : (Word.count32 : Int) ≠ 0)
  rw [moved]
  omega

theorem Cursor.Fits.token {cursor : Cursor} (fits : cursor.Fits) (line : Nat)
    (isRange hasSource : Bool) : (cursor.token line isRange hasSource).Fits :=
  ⟨fits.line, fits.column⟩

theorem Cursor.Fits.advance {sourceCount nameCount : Nat} {cursor next : Cursor}
    {numbers : List Int} {hasSource : Bool} (fits : cursor.Fits)
    (advanced : cursor.advance? sourceCount nameCount numbers = some (next, hasSource)) :
    next.Fits := by
  -- The cases are those of the segment: one number, four of them, five, or another count.
  unfold Cursor.advance? at advanced
  split at advanced
  · cases advanced
    exact ⟨fits.line, fits.column⟩
  · dsimp only at advanced
    split at advanced
    · cases advanced
    · split at advanced
      · cases advanced
        exact ⟨moved_lt _ _, moved_lt _ _⟩
      · split at advanced
        · cases advanced
        · cases advanced
          exact ⟨moved_lt _ _, moved_lt _ _⟩
      · cases advanced
  · cases advanced

theorem Cursor.Fits.readSegments {sourceCount nameCount line : Nat} {cursor last : Cursor}
    {segments : List (List Char × Bool)} {tokens : List Token} (fits : cursor.Fits)
    (read : SourceMap.readSegments sourceCount nameCount line cursor segments =
      some (last, tokens)) :
    last.Fits ∧ ∀ token ∈ tokens, token.Fits := by
  induction segments generalizing cursor tokens with
  | nil =>
      cases read
      exact ⟨fits, by simp⟩
  | cons segment rest inductionHypothesis =>
      obtain ⟨text, isRange⟩ := segment
      rw [SourceMap.readSegments] at read
      by_cases empty : text.isEmpty = true
      · rw [if_pos empty] at read
        exact inductionHypothesis fits read
      · rw [if_neg empty] at read
        simp only [Option.bind_eq_bind, Option.bind_eq_some_iff, Option.pure_def] at read
        obtain ⟨numbers, _, ⟨next, hasSource⟩, advanced, ⟨final, others⟩, readRest, made⟩ := read
        cases made
        have nextFits := fits.advance advanced
        obtain ⟨lastFits, othersFit⟩ := inductionHypothesis nextFits readRest
        refine ⟨lastFits, ?_⟩
        intro token member
        rcases List.mem_cons.mp member with rfl | inOthers
        · exact nextFits.token line isRange hasSource
        · exact othersFit token inOthers

theorem Cursor.Fits.readLines {sourceCount nameCount line : Nat} {cursor : Cursor}
    {lines : List (List Char × List Char)} {tokens : List Token} (fits : cursor.Fits)
    (read : SourceMap.readLines sourceCount nameCount line cursor lines = some tokens) :
    ∀ token ∈ tokens, token.Fits := by
  induction lines generalizing cursor line tokens with
  | nil =>
      cases read
      simp
  | cons first rest inductionHypothesis =>
      obtain ⟨text, ranges⟩ := first
      rw [SourceMap.readLines] at read
      by_cases empty : text.isEmpty = true
      · rw [if_pos empty] at read
        exact inductionHypothesis fits read
      · rw [if_neg empty] at read
        simp only [Option.bind_eq_bind, Option.bind_eq_some_iff, Option.pure_def] at read
        obtain ⟨bits, _, ⟨next, found⟩, readLine, others, readRest, made⟩ := read
        cases made
        have atStart : ({ cursor with column := 0 } : Cursor).Fits := ⟨fits.line, fits.column⟩
        obtain ⟨nextFits, foundFit⟩ := atStart.readSegments readLine
        intro token member
        rcases List.mem_append.mp member with inFound | inOthers
        · exact foundFit token inFound
        · exact inductionHypothesis nextFits readRest token inOthers

theorem fits_of_readMappings {sourceCount nameCount : Nat} {mappings ranges : List Char}
    {tokens : List Token} (read : readMappings sourceCount nameCount mappings ranges = some tokens)
    {token : Token} (member : token ∈ tokens) : token.Fits := by
  have startFits : ({} : Cursor).Fits := ⟨by decide, by decide⟩
  exact startFits.readLines read token member

/-! ## Maps -/

/-- Whether all places that a map gives in sources are of 32 bits. -/
def Fits (map : SourceMap) : Prop := ∀ token ∈ map.tokens, token.Fits

/-- Sorting by insertion keeps what is sorted. -/
theorem foldr_insert_perm {α : Type} {insert : α → List α → List α}
    (inserted : ∀ item items, (insert item items).Perm (item :: items)) (items : List α) :
    (items.foldr insert []).Perm items := by
  induction items with
  | nil => exact List.Perm.refl []
  | cons item rest inductionHypothesis =>
      exact (inserted item _).trans (inductionHypothesis.cons item)

theorem insertToken_perm (token : Token) (tokens : List Token) :
    (insertToken token tokens).Perm (token :: tokens) := by
  induction tokens with
  | nil => exact List.Perm.refl [token]
  | cons first rest inductionHypothesis =>
      rw [insertToken]
      by_cases before : first.isBefore token.line token.column = true
      · rw [if_pos before]
        exact (inductionHypothesis.cons first).trans (List.Perm.swap token first rest)
      · rw [if_neg before]

theorem sortTokens_perm (tokens : List Token) : (sortTokens tokens).Perm tokens :=
  foldr_insert_perm insertToken_perm tokens

theorem fits_of_fields {fields : Fields} {map : SourceMap} (made : fields.map? = some map) :
    map.Fits := by
  obtain ⟨tokens, read, rfl⟩ := Option.map_eq_some_iff.mp made
  intro token member
  exact fits_of_readMappings read ((sortTokens_perm tokens).mem_iff.mp member)

theorem tokens_withSources (whole : SourceMap)
    (named : List (List Char × Option (List Char))) :
    (whole.withSources named).tokens = whole.tokens := by
  induction named generalizing whole with
  | nil => rfl
  | cons first rest inductionHypothesis =>
      obtain ⟨name, content⟩ := first
      rw [withSources, inductionHypothesis]
      cases whole.sources.idxOf? name with
      | none => rfl
      | some index => cases content <;> rfl

theorem Fits.join {whole : SourceMap} {part : Part} (fits : whole.Fits)
    (partFits : part.map.Fits) : (whole.join part).Fits := by
  intro token member
  rw [SourceMap.join, tokens_withSources] at member
  rcases List.mem_append.mp member with inWhole | inPart
  · exact fits token inWhole
  · obtain ⟨own, isOwn, rfl⟩ := List.mem_map.mp inPart
    have ownFits := partFits own isOwn
    exact ⟨ownFits.line, ownFits.column⟩

theorem Fits.foldl_join {parts : List Part} {whole : SourceMap} (fits : whole.Fits)
    (partsFit : ∀ part ∈ parts, part.map.Fits) : (parts.foldl SourceMap.join whole).Fits := by
  induction parts generalizing whole with
  | nil => exact fits
  | cons part rest inductionHypothesis =>
      refine inductionHypothesis (fits.join (partsFit part List.mem_cons_self)) ?_
      intro other member
      exact partsFit other (List.mem_cons_of_mem part member)

theorem insertPart_perm (part : Part) (parts : List Part) :
    (insertPart part parts).Perm (part :: parts) := by
  induction parts with
  | nil => exact List.Perm.refl [part]
  | cons first rest inductionHypothesis =>
      rw [insertPart]
      split
      · exact (inductionHypothesis.cons first).trans (List.Perm.swap part first rest)
      · exact List.Perm.refl (part :: first :: rest)

theorem fits_ofParts {parts : List Part} (partsFit : ∀ part ∈ parts, part.map.Fits) :
    (ofParts parts).Fits := by
  have nothingFits : (⟨[], [], []⟩ : SourceMap).Fits := by
    intro token member
    cases member
  have joined := nothingFits.foldl_join fun part member =>
    partsFit part ((foldr_insert_perm insertPart_perm parts).mem_iff.mp member)
  intro token member
  exact joined token ((sortTokens_perm _).mem_iff.mp member)

/-! ## Records and bytes -/

theorem exists_of_mem_mapM {α β : Type} {convert : α → Option β} {items : List α}
    {results : List β} (converted : items.mapM convert = some results) {result : β}
    (member : result ∈ results) : ∃ item ∈ items, convert item = some result := by
  induction items generalizing results with
  | nil =>
      cases converted
      cases member
  | cons item rest inductionHypothesis =>
      rw [List.mapM_cons] at converted
      simp only [Option.bind_eq_bind, Option.bind_eq_some_iff, Option.pure_def] at converted
      obtain ⟨first, isFirst, others, areOthers, made⟩ := converted
      cases made
      rcases List.mem_cons.mp member with rfl | inOthers
      · exact ⟨item, List.mem_cons_self, isFirst⟩
      · obtain ⟨source, listed, isSource⟩ := inductionHypothesis areOthers inOthers
        exact ⟨source, List.mem_cons_of_mem item listed, isSource⟩

theorem exists_read_of_partWith? {readMap? : Json.Value → Option (SourceMap × Bool)}
    {value : Json.Value} {part : Part} (read : partWith? readMap? value = some part) :
    ∃ record hasFunctions, readMap? record = some (part.map, hasFunctions) := by
  simp only [partWith?, Option.bind_eq_bind, Option.bind_eq_some_iff, Option.pure_def] at read
  obtain ⟨⟨line, column, map⟩, _, record, _, ⟨partMap, hasFunctions⟩, readMap, made⟩ := read
  cases made
  exact ⟨record, hasFunctions, readMap⟩

/-- A map is made of the fields of its record, or of parts whose maps lie one level deeper. -/
theorem ofJson?_cases {level : Nat} {value : Json.Value} {map : SourceMap} {hasFunctions : Bool}
    (read : ofJson? level value = some (map, hasFunctions)) :
    (∃ fields : Fields, fields.map? = some map) ∨
      ∃ lower parts, level = lower + 1 ∧ map = ofParts parts ∧
        ∀ part ∈ parts, ∃ record hasFunctions,
          ofJson? lower record = some (part.map, hasFunctions) := by
  cases level with
  | zero =>
      rw [ofJson?] at read
      simp only [Option.bind_eq_bind, Option.bind_eq_some_iff] at read
      obtain ⟨fields, _, readFields⟩ := read
      by_cases hasParts : fields.parts.isSome = true
      · rw [if_pos hasParts] at readFields
        cases readFields
      · rw [if_neg hasParts] at readFields
        simp only [Option.bind_eq_some_iff, Option.pure_def] at readFields
        obtain ⟨found, isFound, made⟩ := readFields
        cases made
        exact Or.inl ⟨fields, isFound⟩
  | succ level =>
      rw [ofJson?] at read
      simp only [Option.bind_eq_bind, Option.bind_eq_some_iff] at read
      obtain ⟨fields, _, readFields⟩ := read
      cases parts : fields.parts with
      | none =>
          rw [parts] at readFields
          simp only [Option.bind_eq_some_iff, Option.pure_def] at readFields
          obtain ⟨found, isFound, made⟩ := readFields
          cases made
          exact Or.inl ⟨fields, isFound⟩
      | some records =>
          rw [parts] at readFields
          simp only [Option.bind_eq_some_iff, Option.pure_def] at readFields
          obtain ⟨found, areFound, made⟩ := readFields
          cases made
          refine Or.inr ⟨level, found, rfl, rfl, fun part member => ?_⟩
          obtain ⟨record, _, isPart⟩ := exists_of_mem_mapM areFound member
          exact exists_read_of_partWith? isPart

theorem fits_of_ofJson? {level : Nat} {value : Json.Value} {map : SourceMap}
    {hasFunctions : Bool} (read : ofJson? level value = some (map, hasFunctions)) :
    map.Fits := by
  induction level generalizing value map hasFunctions with
  | zero =>
      rcases ofJson?_cases read with ⟨fields, made⟩ | ⟨lower, parts, isLevel, _⟩
      · exact fits_of_fields made
      · cases isLevel
  | succ level inductionHypothesis =>
      rcases ofJson?_cases read with ⟨fields, made⟩ | ⟨lower, parts, isLevel, rfl, areRead⟩
      · exact fits_of_fields made
      · cases isLevel
        refine fits_ofParts fun part member => ?_
        obtain ⟨record, _, partRead⟩ := areRead part member
        exact inductionHypothesis partRead

theorem exists_ofJson?_of_read? {bytes : List UInt8} {map : SourceMap}
    (read : read? bytes = some map) :
    ∃ value hasFunctions, ofJson? levelLimit value = some (map, hasFunctions) := by
  simp only [read?, Option.bind_eq_bind, Option.bind_eq_some_iff] at read
  obtain ⟨rest, _, value, _, ⟨found, hasFunctions⟩, isFound, shown⟩ := read
  cases hasFunctions with
  | false =>
      cases shown
      exact ⟨value, false, isFound⟩
  | true => cases shown

/-- The places that a map which can be read gives in sources are of 32 bits. -/
theorem fits_of_read? {bytes : List UInt8} {map : SourceMap} (read : read? bytes = some map) :
    map.Fits := by
  obtain ⟨value, hasFunctions, isRead⟩ := exists_ofJson?_of_read? read
  exact fits_of_ofJson? isRead

end EditionGuard.SourceMap
