import EditionGuard.Proofs.Browser.NextRelease
import EditionGuard.Proofs.Target.ReleaseOrder

/-!
# Comparing versions

A target asks for a version and all later ones, or for the later ones only.  Both forms ask for no
older edition when the version grows.  The later ones alone take no older edition than the version
with them, and no newer one than any whole number above the version.
-/

namespace EditionGuard.Target

namespace Version

def ofNumeral (number : Text.Numeral) : Version := ⟨number, none⟩

/-- The first version is less than the second as a decimal. -/
def DecimalLt (older newer : Version) : Prop :=
  older.number * 10 ^ newer.places < newer.number * 10 ^ older.places

instance (older newer : Version) : Decidable (older.DecimalLt newer) :=
  inferInstanceAs (Decidable (_ < _))

theorem release_ofNumeral (number : Text.Numeral) :
    (ofNumeral number).release = .major number.value := by
  have digits : (ofNumeral number).number = number.value := Nat.mul_one number.value
  rw [release, digits]
  rfl

/-- A decimal below a whole number is released before it, unless it is rounded up to it. -/
theorem DecimalLt.release_lt {version : Version} {number : Text.Numeral}
    (below : version.DecimalLt (ofNumeral number))
    (notRounded : version.release ≠ .major number.value) :
    version.release < .major number.value := by
  have ordered : version.DecimalLe (ofNumeral number) := Nat.le_of_lt below
  have atMost : version.release ≤ .major number.value := by
    rw [← release_ofNumeral]
    exact ordered.release_le
  exact Browser.Release.lt_of_le_of_ne atMost notRounded

end Version

def queryText (name : String) (link : List Char) (version : Version) : String :=
  String.ofList (name.toList ++ (link ++ version.text))

variable {name : String} {browser : Browser} {exclusive : Bool} {link : List Char}
  {lower upper : Version}

theorem resolveAll_queryText
    (known : Browser.ofName? (String.ofList (Text.lowerAscii name.toList)) = some browser)
    (relates : Relates exclusive link) (version : Version) :
    resolveAll [queryText name link version] =
      .ok (edition (if exclusive then .after browser version.release
        else .since browser version.release)) := by
  rw [resolveAll_singleton, resolve, queryText, ofText?_query known relates version]

/-- The relations of targets agree with the order of numbers.  A whole number above a version
stands above all that is released next, unless the version is rounded up to that number. -/
theorem resolveAll_comparisons
    (known : Browser.ofName? (String.ofList (Text.lowerAscii name.toList)) = some browser)
    (ordered : lower.DecimalLe upper) :
    ∃ sinceLower sinceUpper afterLower afterUpper,
      (∀ link, Relates false link →
        resolveAll [queryText name link lower] = .ok sinceLower ∧
        resolveAll [queryText name link upper] = .ok sinceUpper) ∧
      (∀ link, Relates true link →
        resolveAll [queryText name link lower] = .ok afterLower ∧
        resolveAll [queryText name link upper] = .ok afterUpper) ∧
      sinceLower ≤ sinceUpper ∧ afterLower ≤ afterUpper ∧ sinceLower ≤ afterLower ∧
      ∀ number, lower.DecimalLt (.ofNumeral number) →
        lower.release = .major number.value ∨
          ∃ sinceNumber, afterLower ≤ sinceNumber ∧ ∀ link, Relates false link →
            resolveAll [queryText name link (.ofNumeral number)] = .ok sinceNumber := by
  have releases : lower.release ≤ upper.release := ordered.release_le
  -- Editions never fall with the release, so releases are compared in their place.
  have nextReleases := Browser.nextRelease_mono browser releases
  have later := Browser.lt_nextRelease browser lower.release
  refine ⟨_, _, _, _,
    fun _ fromVersion => ⟨resolveAll_queryText known fromVersion lower,
      resolveAll_queryText known fromVersion upper⟩,
    fun _ aboveVersion => ⟨resolveAll_queryText known aboveVersion lower,
      resolveAll_queryText known aboveVersion upper⟩,
    Browser.edition_mono browser releases, Browser.edition_mono browser nextReleases,
    Browser.edition_mono browser (Nat.le_of_lt later), ?_⟩
  intro number below
  by_cases rounded : lower.release = .major number.value
  · exact Or.inl rounded
  · have beforeNumber := below.release_lt rounded
    have nextBeforeNumber : browser.nextRelease lower.release ≤ .major number.value :=
      Browser.Release.le_trans (Browser.nextRelease_le_nextMajor browser lower.release)
        (Browser.Release.nextMajor_le_major beforeNumber)
    have editions := Browser.edition_mono browser nextBeforeNumber
    refine Or.inr ⟨_, editions, fun _ fromNumber => ?_⟩
    rw [resolveAll_queryText known fromNumber, ← Version.release_ofNumeral]
    rfl

/-- The digits of the minor release, as a whole number. -/
def ten : Text.Numeral := minorTen

def eleven : Text.Numeral := ⟨"11".toList, by decide, List.all_eq_true.mp rfl⟩

def tenFour : Version := ⟨ten, some minorFour⟩

theorem resolveAll_comparisons_safariTen :
    ∃ sinceTen sinceTenFour afterTen sinceEleven,
      resolveAll ["safari 10"] = .ok sinceTen ∧ resolveAll ["safari >= 10"] = .ok sinceTen ∧
      resolveAll ["safari >= 10.4"] = .ok sinceTenFour ∧
      resolveAll ["safari > 10"] = .ok afterTen ∧
      resolveAll ["safari >= 11"] = .ok sinceEleven ∧
      sinceTen ≤ sinceTenFour ∧ sinceTen ≤ afterTen ∧ afterTen ≤ sinceEleven := by
  have known : Browser.ofName? (String.ofList (Text.lowerAscii "safari".toList)) =
      some .safari := by
    decide
  have ordered : (Version.ofNumeral ten).DecimalLe tenFour := by decide
  have notRounded : (Version.ofNumeral ten).release ≠ .major eleven.value := by
    decide +kernel
  have plain : Relates false [' '] := .plainly (List.all_eq_true.mp rfl)
  have atLeast : Relates false " >= ".toList :=
    @Relates.atLeast [' '] [' '] (List.all_eq_true.mp rfl) (List.all_eq_true.mp rfl)
  have above : Relates true " > ".toList :=
    @Relates.above [' '] [' '] (List.all_eq_true.mp rfl) (List.all_eq_true.mp rfl)
  have plainText : queryText "safari" [' '] (.ofNumeral ten) = "safari 10" := by
    decide +kernel
  have tenText : queryText "safari" " >= ".toList (.ofNumeral ten) = "safari >= 10" := by
    decide +kernel
  have tenFourText : queryText "safari" " >= ".toList tenFour = "safari >= 10.4" := by
    decide +kernel
  have aboveText : queryText "safari" " > ".toList (.ofNumeral ten) = "safari > 10" := by
    decide +kernel
  have elevenText : queryText "safari" " >= ".toList (.ofNumeral eleven) = "safari >= 11" := by
    decide +kernel
  obtain ⟨sinceTen, sinceTenFour, afterTen, _, fromVersion, aboveVersion, sinceOrdered, -,
    further, numbers⟩ := resolveAll_comparisons known ordered
  have fromPlain := (fromVersion _ plain).1
  have ⟨fromTen, fromTenFour⟩ := fromVersion _ atLeast
  have aboveTen := (aboveVersion _ above).1
  rw [plainText] at fromPlain
  rw [tenText] at fromTen
  rw [tenFourText] at fromTenFour
  rw [aboveText] at aboveTen
  rcases numbers eleven (by decide) with rounded | ⟨sinceEleven, next, fromNumber⟩
  · exact absurd rounded notRounded
  · have fromEleven := fromNumber _ atLeast
    rw [elevenText] at fromEleven
    exact ⟨sinceTen, sinceTenFour, afterTen, sinceEleven, fromPlain, fromTen, fromTenFour,
      aboveTen, fromEleven, sinceOrdered, further, next⟩

end EditionGuard.Target
