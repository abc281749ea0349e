import EditionGuard.Proofs.SourceMap.Attribution

/-!
# Maps in order

The tokens of every map that can be read stand in the order of their places.  In such a map a
place is looked up among the tokens of its own line only, and what is found there is the last token
that the place reaches.
-/

namespace EditionGuard.SourceMap

/-- The first token stands at no later place than the second. -/
def Token.NotAfter (first second : Token) : Prop :=
  first.line < second.line ∨ (first.line = second.line ∧ first.column ≤ second.column)

theorem Token.isBefore_iff {token : Token} {line column : Nat} :
    token.isBefore line column = true ↔
      token.line < line ∨ (token.line = line ∧ token.column < column) := by
  simp [isBefore]

theorem Token.isAt_iff {token : Token} {line column : Nat} :
    token.isAt line column = true ↔ token.line = line ∧ token.column = column := by
  simp [isAt]

theorem Token.NotAfter.trans {first second third : Token} (firstSecond : first.NotAfter second)
    (secondThird : second.NotAfter third) : first.NotAfter third := by
  simp only [NotAfter] at *
  omega

def IsOrdered (map : SourceMap) : Prop := map.tokens.Pairwise Token.NotAfter

theorem pairwise_insertToken (token : Token) {tokens : List Token}
    (ordered : tokens.Pairwise Token.NotAfter) :
    (insertToken token tokens).Pairwise Token.NotAfter := by
  induction tokens with
  | nil => exact List.pairwise_singleton _ token
  | cons first rest inductionHypothesis =>
      obtain ⟨firstLeast, restOrdered⟩ := List.pairwise_cons.mp ordered
      rw [insertToken]
      by_cases before : first.isBefore token.line token.column = true
      · rw [if_pos before]
        refine List.pairwise_cons.mpr ⟨fun other member => ?_, inductionHypothesis restOrdered⟩
        rcases List.mem_cons.mp ((insertToken_perm token rest).mem_iff.mp member) with
          rfl | inRest
        · have place := Token.isBefore_iff.mp before
          simp only [Token.NotAfter]
          omega
        · exact firstLeast other inRest
      · rw [if_neg before]
        have tokenFirst : token.NotAfter first := by
          have place := mt Token.isBefore_iff.mpr before
          simp only [Token.NotAfter]
          omega
        refine List.pairwise_cons.mpr ⟨fun other member => ?_, ordered⟩
        rcases List.mem_cons.mp member with rfl | inRest
        · exact tokenFirst
        · exact tokenFirst.trans (firstLeast other inRest)

theorem pairwise_sortTokens (tokens : List Token) :
    (sortTokens tokens).Pairwise Token.NotAfter := by
  induction tokens with
  | nil => exact List.Pairwise.nil
  | cons token rest inductionHypothesis => exact pairwise_insertToken token inductionHypothesis

theorem isOrdered_of_read? {bytes : List UInt8} {map : SourceMap}
    (read : read? bytes = some map) : map.IsOrdered := by
  obtain ⟨value, hasFunctions, isRead⟩ := exists_ofJson?_of_read? read
  rcases ofJson?_cases isRead with ⟨fields, made⟩ | ⟨lower, parts, _, rfl, _⟩
  · obtain ⟨tokens, _, rfl⟩ := Option.map_eq_some_iff.mp made
    exact pairwise_sortTokens tokens
  · exact pairwise_sortTokens _

variable {map : SourceMap} {line column : Nat}

def tokensOn (map : SourceMap) (line : Nat) : List Token :=
  map.tokens.filter fun token => token.line == line

def onLine (map : SourceMap) (line : Nat) : SourceMap := { map with tokens := map.tokensOn line }

theorem find?_isAt_tokensOn (map : SourceMap) (line column : Nat) :
    (map.tokensOn line).find? (Token.isAt line column) =
      map.tokens.find? (Token.isAt line column) := by
  rw [tokensOn, List.find?_filter]
  congr 1
  funext token
  rw [Bool.eq_iff_iff, decide_eq_true_eq, Token.isAt_iff, beq_iff_eq]
  exact ⟨And.right, fun stands => ⟨stands.1, stands⟩⟩

/-- Going back from the end, the first token before a place stands on the line of the place, or no
token before the place does. -/
theorem find?_isBefore_filter {turned : List Token}
    (descending : turned.Pairwise fun later earlier => earlier.NotAfter later) :
    (turned.filter fun token => token.line == line).find? (Token.isBefore line column) =
      (turned.find? (Token.isBefore line column)).filter fun token => token.line == line := by
  induction turned with
  | nil => rfl
  | cons token rest inductionHypothesis =>
      obtain ⟨tokenLast, restDescending⟩ := List.pairwise_cons.mp descending
      have skip := inductionHypothesis restDescending
      cases before : token.isBefore line column with
      | false =>
          rw [List.find?_cons_of_neg (by simp [before]), ← skip, List.filter_cons]
          split
          · rw [List.find?_cons_of_neg (by simp [before])]
          · rfl
      | true =>
          rw [List.find?_cons_of_pos before, Option.filter_some, List.filter_cons]
          by_cases sameLine : token.line = line
          · rw [if_pos (by simp [sameLine]), if_pos (by simp [sameLine]),
              List.find?_cons_of_pos before]
          · -- The token stands on an earlier line, and so do all tokens that follow it here.
            rw [if_neg (by simp [sameLine]), if_neg (by simp [sameLine]), List.find?_eq_none]
            intro other member
            obtain ⟨listed, onLine⟩ := List.mem_filter.mp member
            have place := tokenLast other listed
            have tokenPlace := Token.isBefore_iff.mp before
            have otherLine : other.line = line := by simpa using onLine
            simp only [Token.NotAfter] at place
            omega

theorem lookup_onLine (ordered : map.IsOrdered) (line column : Nat) :
    (map.onLine line).lookup line column = map.lookup line column := by
  have descending : map.tokens.reverse.Pairwise fun later earlier => earlier.NotAfter later :=
    List.pairwise_reverse.mpr ordered
  have before : (map.tokensOn line).reverse.find? (Token.isBefore line column) =
      (map.tokens.reverse.find? (Token.isBefore line column)).filter
        fun token => token.line == line := by
    rw [tokensOn, ← List.filter_reverse, find?_isBefore_filter descending]
  simp only [lookup, onLine, find?_isAt_tokensOn, before]
  cases map.tokens.find? (Token.isAt line column) with
  | some token => rfl
  | none => simp only [Option.none_or, Option.filter_filter, Bool.and_self]

/-- A token is the last of its line that stands at a column or before it. -/
structure Covers (map : SourceMap) (line column : Nat) (token : Token) : Prop where
  mem : token ∈ map.tokens
  line_eq : token.line = line
  reaches : token.column ≤ column
  greatest : ∀ other ∈ map.tokens, other.line = line → other.column ≤ column →
    other.column ≤ token.column

theorem Governs.covers {token : Token} (governs : map.Governs line column token)
    (ordered : map.IsOrdered) : map.Covers line column token := by
  have member := governs.mem
  obtain ⟨isLine, earlier, later, tokens, ⟨atColumn, _⟩ | ⟨beforeColumn, noneAt, noneLater⟩⟩ :=
    governs
  · refine ⟨member, isLine, Nat.le_of_eq atColumn, fun other _ _ reaches => ?_⟩
    rw [atColumn]
    exact reaches
  · refine ⟨member, isLine, Nat.le_of_lt beforeColumn, fun other listed sameLine reaches => ?_⟩
    have notAt : other.column ≠ column := fun atColumn => by
      have stands := Token.isAt_iff.mpr ⟨sameLine, atColumn⟩
      rw [noneAt other listed] at stands
      cases stands
    rw [tokens] at listed
    rcases List.mem_append.mp listed with inEarlier | inRest
    · rw [IsOrdered, tokens, List.pairwise_append] at ordered
      have notAfter := ordered.2.2 other inEarlier token List.mem_cons_self
      simp only [Token.NotAfter] at notAfter
      omega
    · rcases List.mem_cons.mp inRest with rfl | inLater
      · exact Nat.le_refl other.column
      · have before := Token.isBefore_iff.mpr
          (Or.inr ⟨sameLine, Nat.lt_of_le_of_ne reaches notAt⟩)
        rw [noneLater other inLater] at before
        cases before

end EditionGuard.SourceMap
