import EditionGuard.Proofs.Browser.Support
import EditionGuard.Proofs.Target.Query

/-!
# The order of releases

Releases come out in the order of their numbers, major before minor.  Targets compare decimals
instead.  The two orders agree for different majors, and wherever the newer release has no more
digits behind the point; otherwise a tenth minor release counts as the first.
-/

namespace EditionGuard.Target

namespace Version

/-- The first version is released no later than the second. -/
def ReleaseLe (older newer : Version) : Prop :=
  older.major < newer.major ∨ (older.major = newer.major ∧ older.minor ≤ newer.minor)

/-- The first version is no greater than the second as a decimal. -/
def DecimalLe (older newer : Version) : Prop :=
  older.number * 10 ^ newer.places ≤ newer.number * 10 ^ older.places

instance (older newer : Version) : Decidable (older.ReleaseLe newer) :=
  inferInstanceAs (Decidable (_ ∨ _))

instance (older newer : Version) : Decidable (older.DecimalLe newer) :=
  inferInstanceAs (Decidable (_ ≤ _))

variable {older newer : Version}

theorem decimalLe_of_major_lt (earlier : older.major < newer.major) : older.DecimalLe newer := by
  have olderBelow : older.number ≤ newer.major * 10 ^ older.places := by
    have minorBelow := older.minor_lt
    calc
      older.number ≤ older.major * 10 ^ older.places + 10 ^ older.places :=
        Nat.add_le_add_left minorBelow.le _
      _ = (older.major + 1) * 10 ^ older.places := by ring
      _ ≤ newer.major * 10 ^ older.places := Nat.mul_le_mul_right _ earlier
  calc
    older.number * 10 ^ newer.places ≤ newer.major * 10 ^ older.places * 10 ^ newer.places :=
      Nat.mul_le_mul_right _ olderBelow
    _ = newer.major * 10 ^ newer.places * 10 ^ older.places := by ring
    _ ≤ newer.number * 10 ^ older.places :=
      Nat.mul_le_mul_right _ (Nat.le_add_right _ newer.minor)

theorem decimalLe_of_places_le (sameMajor : older.major = newer.major)
    (minors : older.minor ≤ newer.minor) (noMoreDigits : newer.places ≤ older.places) :
    older.DecimalLe newer := by
  have powers : 10 ^ newer.places ≤ 10 ^ older.places :=
    Nat.pow_le_pow_right (by decide) noMoreDigits
  have scaledMinors : older.minor * 10 ^ newer.places ≤ newer.minor * 10 ^ older.places :=
    Nat.mul_le_mul minors powers
  calc
    older.number * 10 ^ newer.places =
        newer.major * 10 ^ newer.places * 10 ^ older.places +
          older.minor * 10 ^ newer.places := by
      rw [number, sameMajor]
      ring
    _ ≤ newer.major * 10 ^ newer.places * 10 ^ older.places +
          newer.minor * 10 ^ older.places := Nat.add_le_add_left scaledMinors _
    _ = newer.number * 10 ^ older.places := by
      rw [number]
      ring

theorem DecimalLe.release_le (ordered : older.DecimalLe newer) : older.release ≤ newer.release :=
  Browser.Release.ofDecimal_mono ordered

theorem major_le_release (version : Version) : .major version.major ≤ version.release := by
  refine Browser.Release.ofDecimal_mono ?_
  rw [Nat.pow_zero, Nat.mul_one]
  exact Nat.le_add_right _ version.minor

/-- Two releases of one major can be told apart, or need not be.  The newer has no more digits
behind the point, or is the greater decimal too; or no minimum of the browser is a minor release,
and the older is not rounded up to the next major. -/
def ComparesFor (browser : Browser) (older newer : Version) : Prop :=
  newer.places ≤ older.places ∨ older.DecimalLe newer ∨
    (browser.HasWholeMinima ∧ older.release < .major (older.major + 1))

theorem edition_le {browser : Browser} (ordered : older.ReleaseLe newer)
    (compares : older.major = newer.major → ComparesFor browser older newer) :
    browser.edition older.release ≤ browser.edition newer.release := by
  rcases ordered with earlier | ⟨sameMajor, minors⟩
  · exact Browser.edition_mono browser (decimalLe_of_major_lt earlier).release_le
  · rcases compares sameMajor with noMoreDigits | decimals | ⟨whole, below⟩
    · have decimals := decimalLe_of_places_le sameMajor minors noMoreDigits
      exact Browser.edition_mono browser decimals.release_le
    · exact Browser.edition_mono browser decimals.release_le
    · have above := newer.major_le_release
      rw [← sameMajor] at above
      exact Browser.edition_le_of_whole whole below above

end Version

def sinceText (name : String) (version : Version) : String :=
  name ++ " >= " ++ String.ofList version.text

variable {name : String} {browser : Browser} {older newer : Version}

theorem resolveAll_singleton (text : String) : resolveAll [text] = resolve text := by
  rw [resolveAll, List.mapM_cons, List.mapM_nil]
  cases resolve text <;> rfl

theorem resolveAll_sinceText
    (known : Browser.ofName? (String.ofList (Text.lowerAscii name.toList)) = some browser)
    (version : Version) :
    resolveAll [sinceText name version] = .ok (browser.edition version.release) := by
  have relates : Relates false " >= ".toList :=
    @Relates.atLeast [' '] [' '] (List.all_eq_true.mp rfl) (List.all_eq_true.mp rfl)
  have characters : sinceText name version =
      String.ofList (name.toList ++ (" >= ".toList ++ version.text)) := by
    rw [String.ofList_append, String.ofList_append, String.ofList_toList, String.ofList_toList,
      ← String.append_assoc]
    rfl
  have read : ofText? (sinceText name version) = some (.since browser version.release) := by
    rw [characters]
    exact ofText?_query known relates version
  rw [resolveAll_singleton, resolve, read]
  rfl

/-- From a newer release on no older edition is taken, unless only decimals in another order tell
the releases apart. -/
theorem resolveAll_releaseLe
    (known : Browser.ofName? (String.ofList (Text.lowerAscii name.toList)) = some browser)
    (ordered : older.ReleaseLe newer)
    (compares : older.major = newer.major → Version.ComparesFor browser older newer) :
    ∃ first second, resolveAll [sinceText name older] = .ok first ∧
      resolveAll [sinceText name newer] = .ok second ∧ first ≤ second :=
  ⟨_, _, resolveAll_sinceText known older, resolveAll_sinceText known newer,
    Version.edition_le ordered compares⟩

def sixteenth (minor : Text.Numeral) : Version :=
  ⟨⟨"16".toList, by decide, List.all_eq_true.mp rfl⟩, some minor⟩

def minorThree : Text.Numeral := ⟨"3".toList, by decide, List.all_eq_true.mp rfl⟩

def minorFour : Text.Numeral := ⟨"4".toList, by decide, List.all_eq_true.mp rfl⟩

def minorTen : Text.Numeral := ⟨"10".toList, by decide, List.all_eq_true.mp rfl⟩

theorem resolveAll_releaseLe_singleDigits :
    sinceText "Safari" (sixteenth minorThree) = "Safari >= 16.3" ∧
      sinceText "Safari" (sixteenth minorFour) = "Safari >= 16.4" ∧
      ∃ first second, resolveAll [sinceText "Safari" (sixteenth minorThree)] = .ok first ∧
        resolveAll [sinceText "Safari" (sixteenth minorFour)] = .ok second ∧ first ≤ second := by
  have known : Browser.ofName? (String.ofList (Text.lowerAscii "Safari".toList)) =
      some .safari := by
    decide
  have ordered : (sixteenth minorThree).ReleaseLe (sixteenth minorFour) := by decide
  have noMoreDigits : (sixteenth minorFour).places ≤ (sixteenth minorThree).places := by decide
  exact ⟨by decide +kernel, by decide +kernel,
    resolveAll_releaseLe known ordered fun _ => Or.inl noMoreDigits⟩

/-- The tenth minor release comes after the fourth, and is taken for the first. -/
theorem resolveAll_tenthMinor :
    (sixteenth minorFour).ReleaseLe (sixteenth minorTen) ∧
      sinceText "safari" (sixteenth minorFour) = "safari >= 16.4" ∧
      sinceText "safari" (sixteenth minorTen) = "safari >= 16.10" ∧
      resolveAll ["safari >= 16.4"] = .ok .es2023 ∧
      resolveAll ["safari >= 16.10"] = .ok .es2017 ∧
      ¬Edition.es2023 ≤ Edition.es2017 := by
  have known : Browser.ofName? (String.ofList (Text.lowerAscii "safari".toList)) =
      some .safari := by
    decide
  have fourthText : sinceText "safari" (sixteenth minorFour) = "safari >= 16.4" := by
    decide +kernel
  have tenthText : sinceText "safari" (sixteenth minorTen) = "safari >= 16.10" := by
    decide +kernel
  have fourth : Browser.safari.edition (sixteenth minorFour).release = .es2023 := by
    decide +kernel
  have tenth : Browser.safari.edition (sixteenth minorTen).release = .es2017 := by
    decide +kernel
  have fourthResolved := resolveAll_sinceText known (sixteenth minorFour)
  have tenthResolved := resolveAll_sinceText known (sixteenth minorTen)
  rw [fourthText, fourth] at fourthResolved
  rw [tenthText, tenth] at tenthResolved
  exact ⟨by decide, fourthText, tenthText, fourthResolved, tenthResolved, by decide⟩

end EditionGuard.Target
