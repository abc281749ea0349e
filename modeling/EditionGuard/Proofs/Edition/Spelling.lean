import EditionGuard.Options
import EditionGuard.Proofs.Json.Numeral
import EditionGuard.Proofs.Text.Trim

/-!
# How editions are spelled

An edition is named by a word or by a number.  The number may have zeros in front of it, a plus sign
in front of these, and `es` in front of all.  These spellings are all that is read.  A reader that
keeps the number in a word of 32 bits reads the same, and so does JSON.
-/

namespace EditionGuard.Edition

open Text

/-! ## Numbers -/

/-- The numbers that name an edition: five, a serial number, or a year. -/
inductive Numbers : Nat → Edition → Prop
  | five : Numbers 5 .es5
  | serial {number : Nat} {edition : Edition} :
      6 ≤ number → number ≤ 16 → edition.year? = some (number + 2009) → Numbers number edition
  | year {number : Nat} {edition : Edition} :
      2015 ≤ number → number ≤ 2025 → edition.year? = some number → Numbers number edition

theorem year?_range {edition : Edition} {year : Nat} (isYear : edition.year? = some year) :
    2015 ≤ year ∧ year ≤ 2025 := by
  cases edition <;> cases isYear <;> decide

theorem ofYear?_eq_some_iff {year : Nat} {edition : Edition} :
    ofYear? year = some edition ↔ edition.year? = some year := by
  constructor
  · intro found
    simpa using List.find?_some found
  · intro isYear
    cases edition <;> cases isYear <;> decide

theorem ofNumber?_eq_some_iff {number : Nat} {edition : Edition} :
    ofNumber? number = some edition ↔ Numbers number edition := by
  constructor
  · intro found
    rw [ofNumber?] at found
    by_cases isFive : number = 5
    · rw [if_pos isFive] at found
      cases found
      rw [isFive]
      exact .five
    · rw [if_neg isFive] at found
      by_cases isSerial : 6 ≤ number ∧ number ≤ 16
      · rw [if_pos isSerial, ofYear?_eq_some_iff] at found
        exact .serial isSerial.1 isSerial.2 found
      · rw [if_neg isSerial, ofYear?_eq_some_iff] at found
        obtain ⟨lower, upper⟩ := year?_range found
        exact .year lower upper found
  · intro names
    rw [ofNumber?]
    cases names with
    | five => rfl
    | serial lower upper isYear =>
        rw [if_neg (by omega), if_pos ⟨lower, upper⟩, ofYear?_eq_some_iff]
        exact isYear
    | year lower upper isYear =>
        rw [if_neg (by omega), if_neg (by omega), ofYear?_eq_some_iff]
        exact isYear

/-! ## Spellings -/

/-- The spellings of an edition in small letters. -/
inductive Spells : List Char → Edition → Prop
  | latest : Spells "latest".toList .latest
  | esnext : Spells "esnext".toList .latest
  | numbered {lead sign : List Char} {number : Nat} {edition : Edition} (zeros : Nat) :
      lead = [] ∨ lead = "es".toList →
      sign = [] ∨ sign = ['+'] →
      Numbers number edition →
      Spells (lead ++ sign ++ List.replicate zeros '0' ++ decimal number) edition

def withoutLead : List Char → List Char
  | 'e' :: 's' :: rest => rest
  | name => name

/-- What is left of a number behind a plus sign, if it begins so. -/
def withoutSign : List Char → List Char
  | '+' :: rest => rest
  | number => number

def ofName? (name : List Char) : Option Edition :=
  if name = "latest".toList ∨ name = "esnext".toList then some .latest
  else (digitsValue? (withoutSign (withoutLead name))).bind ofNumber?

theorem ofText?_eq_ofName? (text : String) :
    ofText? text = ofName? (lowerAscii (trim text.toList)) :=
  rfl

theorem exists_lead (name : List Char) :
    ∃ lead, (lead = [] ∨ lead = "es".toList) ∧ name = lead ++ withoutLead name := by
  unfold withoutLead
  split
  · exact ⟨"es".toList, Or.inr rfl, rfl⟩
  · exact ⟨[], Or.inl rfl, rfl⟩

theorem exists_sign (number : List Char) :
    ∃ sign, (sign = [] ∨ sign = ['+']) ∧ number = sign ++ withoutSign number := by
  unfold withoutSign
  split
  · exact ⟨['+'], Or.inr rfl, rfl⟩
  · exact ⟨[], Or.inl rfl, rfl⟩

theorem withoutLead_append {lead back : List Char} (isLead : lead = [] ∨ lead = "es".toList)
    (noLead : 'e' ∉ back) : withoutLead (lead ++ back) = back := by
  rcases isLead with rfl | rfl
  · unfold withoutLead
    split
    · next isCons =>
        rw [List.nil_append] at isCons
        rw [isCons] at noLead
        exact absurd List.mem_cons_self noLead
    · rfl
  · rfl

theorem withoutSign_append {sign back : List Char} (isSign : sign = [] ∨ sign = ['+'])
    (noSign : '+' ∉ back) : withoutSign (sign ++ back) = back := by
  rcases isSign with rfl | rfl
  · unfold withoutSign
    split
    · next isCons =>
        rw [List.nil_append] at isCons
        rw [isCons] at noSign
        exact absurd List.mem_cons_self noSign
    · rfl
  · rfl

theorem digitsValue?_eq_some_iff {digits : List Char} {number : Nat} :
    digitsValue? digits = some number ↔ digits ≠ [] ∧ decimal? digits = some number := by
  cases digits with
  | nil => simp [digitsValue?]
  | cons first rest => simp [digitsValue?]

theorem isDigit_of_mem_zeros_append {zeros number : Nat} {char : Char}
    (member : char ∈ List.replicate zeros '0' ++ decimal number) : char.isDigit = true := by
  rcases List.mem_append.mp member with inZeros | inNumber
  · rw [List.eq_of_mem_replicate inZeros]
    decide
  · exact isDigit_of_mem_decimal inNumber

theorem not_mem_zeros_append {zeros number : Nat} {char : Char} (noDigit : char.isDigit = false) :
    char ∉ List.replicate zeros '0' ++ decimal number := by
  intro member
  have isDigit := isDigit_of_mem_zeros_append member
  rw [noDigit] at isDigit
  cases isDigit

theorem ofName?_numbered {lead sign : List Char} (zeros number : Nat)
    (isLead : lead = [] ∨ lead = "es".toList) (isSign : sign = [] ∨ sign = ['+']) :
    ofName? (lead ++ sign ++ List.replicate zeros '0' ++ decimal number) = ofNumber? number := by
  have notBehind : ∀ char, char.isDigit = false → char ≠ '+' →
      char ∉ sign ++ (List.replicate zeros '0' ++ decimal number) := by
    intro char noDigit noSign member
    rcases List.mem_append.mp member with inSign | inDigits
    · rcases isSign with rfl | rfl
      · cases inSign
      · exact noSign (List.mem_singleton.mp inSign)
    · exact not_mem_zeros_append noDigit inDigits
  -- Both words have a `t`, and no spelling by a number has one.
  have noLetter : 't' ∉ lead ++ (sign ++ (List.replicate zeros '0' ++ decimal number)) := by
    intro member
    rcases List.mem_append.mp member with inLead | inRest
    · rcases isLead with rfl | rfl
      · cases inLead
      · exact absurd inLead (by decide)
    · exact notBehind 't' (by decide) (by decide) inRest
  have nonempty : List.replicate zeros '0' ++ decimal number ≠ [] := by
    simp [decimal_ne_nil]
  have read := digitsValue?_eq_some_iff.mpr ⟨nonempty, decimal?_zeros_append zeros number⟩
  rw [List.append_assoc, List.append_assoc, ofName?, if_neg,
    withoutLead_append isLead (notBehind 'e' (by decide) (by decide)),
    withoutSign_append isSign (not_mem_zeros_append (by decide)), read, Option.bind_some]
  rintro (isWord | isWord)
  · rw [isWord] at noLetter
    exact noLetter (by decide)
  · rw [isWord] at noLetter
    exact noLetter (by decide)

theorem ofName?_eq_some_iff {name : List Char} {edition : Edition} :
    ofName? name = some edition ↔ Spells name edition := by
  constructor
  · intro named
    rw [ofName?] at named
    by_cases isWord : name = "latest".toList ∨ name = "esnext".toList
    · rw [if_pos isWord] at named
      cases named
      rcases isWord with rfl | rfl
      · exact .latest
      · exact .esnext
    · rw [if_neg isWord, Option.bind_eq_some_iff] at named
      obtain ⟨number, read, isNumber⟩ := named
      obtain ⟨nonempty, value⟩ := digitsValue?_eq_some_iff.mp read
      obtain ⟨zeros, isDigits⟩ := exists_zeros_append nonempty value
      obtain ⟨lead, isLead, behindLead⟩ := exists_lead name
      obtain ⟨sign, isSign, behindSign⟩ := exists_sign (withoutLead name)
      have spelled := Spells.numbered zeros isLead isSign (ofNumber?_eq_some_iff.mp isNumber)
      rw [behindLead, behindSign, isDigits]
      simpa only [List.append_assoc] using spelled
  · intro spells
    cases spells with
    | latest => rfl
    | esnext => rfl
    | numbered zeros isLead isSign names =>
        rw [ofName?_numbered zeros _ isLead isSign]
        exact ofNumber?_eq_some_iff.mpr names

/-! ## Words of 32 bits -/

/-- The word that digits stand for behind what `value` stands for; nothing as soon as the number
does not fit. -/
def wordFrom? (value : UInt32) : List Char → Option UInt32
  | [] => some value
  | char :: rest =>
    (decimalDigit? char).bind fun digit =>
      if value.toNat * 10 + digit < Word.count32 then
        wordFrom? (value * 10 + UInt32.ofNat digit) rest
      else none

/-- The word of a run of decimal digits; nothing if it is empty or holds anything else. -/
def digitsWord? : List Char → Option UInt32
  | [] => none
  | digits => wordFrom? 0 digits

theorem le_of_numberFrom? {value number : Nat} {digits : List Char}
    (read : numberFrom? 10 decimalDigit? value digits = some number) : value ≤ number := by
  rw [numberFrom?_eq_map, Option.map_eq_some_iff] at read
  obtain ⟨behind, -, rfl⟩ := read
  calc
    value ≤ value * 10 ^ digits.length := Nat.le_mul_of_pos_right value (Nat.pow_pos (by decide))
    _ ≤ value * 10 ^ digits.length + behind := Nat.le_add_right _ _

theorem wordFrom?_eq_filter (value : UInt32) (digits : List Char) :
    (wordFrom? value digits).map UInt32.toNat =
      (numberFrom? 10 decimalDigit? value.toNat digits).filter (· < Word.count32) := by
  induction digits generalizing value with
  | nil =>
      have fits : value.toNat < Word.count32 := value.toNat_lt
      simp [wordFrom?, Option.filter, fits]
  | cons char rest inductionHypothesis =>
      rw [wordFrom?, numberFrom?]
      cases decimalDigit? char with
      | none => rfl
      | some digit =>
          rw [Option.bind_some, Option.bind_some]
          by_cases fits : value.toNat * 10 + digit < Word.count32
          · have exact : (value * 10 + UInt32.ofNat digit).toNat = value.toNat * 10 + digit := by
              rw [Word.count32] at fits
              simp only [UInt32.toNat_add, UInt32.toNat_mul, UInt32.toNat_ofNat',
                UInt32.reduceToNat]
              omega
            rw [if_pos fits, inductionHypothesis, exact]
          · rw [if_neg fits, Option.map_none, eq_comm, Option.filter_eq_none_iff]
            intro number read
            have larger := le_of_numberFrom? read
            simp only [decide_eq_true_eq]
            omega

theorem ofNumber?_eq_none_of_le {number : Nat} (large : Word.count32 ≤ number) :
    ofNumber? number = none := by
  rw [Word.count32] at large
  rw [Option.eq_none_iff_forall_ne_some]
  intro edition named
  cases ofNumber?_eq_some_iff.mp named <;> omega

/-- A number that does not fit names no edition, so that words are enough. -/
theorem digitsWord?_bind_ofNumber? (digits : List Char) :
    ((digitsWord? digits).bind fun word => ofNumber? word.toNat) =
      (digitsValue? digits).bind ofNumber? := by
  cases digits with
  | nil => rfl
  | cons first rest =>
      have words : (digitsWord? (first :: rest)).map UInt32.toNat =
          (digitsValue? (first :: rest)).filter (· < Word.count32) :=
        wordFrom?_eq_filter 0 (first :: rest)
      have mapped : ((digitsWord? (first :: rest)).map UInt32.toNat).bind ofNumber? =
          (digitsWord? (first :: rest)).bind fun word => ofNumber? word.toNat :=
        Option.bind_map
      rw [← mapped, words]
      cases digitsValue? (first :: rest) with
      | none => rfl
      | some number =>
          by_cases fits : number < Word.count32
          · simp [Option.filter, fits]
          · have noEdition := ofNumber?_eq_none_of_le (Nat.le_of_not_lt fits)
            simp [Option.filter, fits, noEdition]

/-! ## JSON -/

theorem trim_decimal (number : Nat) : trim (decimal number) = decimal number := by
  have visible : ∀ char ∈ decimal number, isWhiteSpace char = false := fun char member =>
    isWhiteSpace_eq_false_of_isDigit (isDigit_of_mem_decimal member)
  have trimmed := trim_visible_append decimal_ne_nil visible []
  rwa [List.rdropWhile_nil, List.append_nil] at trimmed

theorem ofText?_decimal (number : Nat) :
    ofText? (String.ofList (decimal number)) = ofNumber? number := by
  have small : lowerAscii (decimal number) = decimal number :=
    lowerAscii_eq_self fun char member =>
      isAlpha_eq_false_of_isDigit (isDigit_of_mem_decimal member)
  rw [ofText?_eq_ofName?, String.toList_ofList, trim_decimal, small]
  exact ofName?_numbered 0 number (Or.inl rfl) (Or.inl rfl)

theorem ofJson?_number (number : Nat) :
    ofJson? (.number ⟨false, number, 0, true⟩) = ofNumber? number := by
  rw [ofJson?, Json.Value.word?, Json.Value.natural?, Json.Number.natural?]
  by_cases fits : number < Word.count32
  · have fits64 : number < Word.count64 := Nat.lt_trans fits (by decide)
    simp [Option.filter, fits, fits64]
  · rw [ofNumber?_eq_none_of_le (Nat.le_of_not_lt fits)]
    split <;> simp [Option.filter, fits]

/-- A text names an edition just when it spells it once it is trimmed and written small; else the
problem shows the text as it is.  Reading the number in a word of 32 bits decides the same for
digits of any length, what is shown for an edition names it, and a natural number in JSON is taken
as its digits are. -/
theorem ofText_spellings :
    (∀ text edition, ofText text = .ok edition ↔ Spells (lowerAscii (trim text.toList)) edition) ∧
    (∀ text problem, ofText text = .error problem ↔
      problem = .invalidVersion text ∧
        ∀ edition, ¬ Spells (lowerAscii (trim text.toList)) edition) ∧
    (∀ text, (Problem.invalidVersion text).message =
      "[check-syntax] invalid ecmaVersion `" ++ text ++ "`") ∧
    (∀ digits, ((digitsWord? digits).bind fun word => ofNumber? word.toNat) =
      (digitsValue? digits).bind ofNumber?) ∧
    (∀ edition : Edition, ofText edition.display = .ok edition) ∧
    (∀ number, (Json.ofText? (decimal number)).bind ofJson? =
      ofText? (String.ofList (decimal number))) := by
  refine ⟨?named, ?refused, ?quoted, digitsWord?_bind_ofNumber?, ?shown, ?inJson⟩
  case named =>
    intro text edition
    rw [← ofName?_eq_some_iff, ← ofText?_eq_ofName?, ofText]
    cases ofText? text <;> simp
  case refused =>
    intro text problem
    simp only [← ofName?_eq_some_iff, ← ofText?_eq_ofName?, ofText]
    cases ofText? text <;> simp [eq_comm]
  case quoted =>
    intro text
    rfl
  case shown =>
    intro edition
    cases edition <;> rfl
  case inJson =>
    intro number
    rw [Json.ofText?_decimal, Option.bind_some, ofJson?_number, ofText?_decimal]

-- White space, capital letters, a sign and zeros; and the lead twice.
example : ofText "\u2003Es+0016\n" = .ok .es2025 ∧
    ofText "eses16" = .error (.invalidVersion "eses16") := by
  decide

end EditionGuard.Edition
