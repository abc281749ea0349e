import EditionGuard.Target
import EditionGuard.Proofs.Text.Cut
import EditionGuard.Proofs.Text.Numeral
import EditionGuard.Proofs.Text.Trim

/-!
# Reading targets

A target is the name of a browser, perhaps a relation, and the number of a version.  The parts may
stand apart, and the case of the name does not matter.
-/

namespace EditionGuard.Target

/-! ## Versions -/

/-- The number of a version as users write it. -/
structure Version where
  whole : Text.Numeral
  fraction : Option Text.Numeral

namespace Version

def text (version : Version) : List Char :=
  version.whole.digits ++ version.fraction.elim [] fun numeral => '.' :: numeral.digits

def major (version : Version) : Nat := version.whole.value

def minor (version : Version) : Nat := version.fraction.elim 0 Text.Numeral.value

/-- How many digits stand behind the point. -/
def places (version : Version) : Nat :=
  version.fraction.elim 0 fun numeral => numeral.digits.length

/-- The number of all digits, as though there was no point. -/
def number (version : Version) : Nat := version.major * 10 ^ version.places + version.minor

def release (version : Version) : Browser.Release := .ofDecimal version.number version.places

theorem minor_lt (version : Version) : version.minor < 10 ^ version.places := by
  rcases version with ⟨whole, _ | fraction⟩
  · exact Nat.one_pos
  · exact fraction.value_lt

theorem text_begins (version : Version) :
    ∃ digit rest, version.text = digit :: rest ∧ digit.isDigit = true := by
  obtain ⟨digit, rest, isCons, isDigit⟩ := version.whole.exists_cons
  have begins : version.text =
      digit :: (rest ++ version.fraction.elim [] fun numeral => '.' :: numeral.digits) := by
    rw [text, isCons, List.cons_append]
  exact ⟨digit, _, begins, isDigit⟩

theorem text_ends (version : Version) :
    ∃ front digit, version.text = front ++ [digit] ∧ digit.isDigit = true := by
  rcases version with ⟨whole, _ | fraction⟩
  · obtain ⟨front, digit, isConcat, isDigit⟩ := whole.exists_concat
    refine ⟨front, digit, ?_, isDigit⟩
    rw [← isConcat]
    exact List.append_nil _
  · obtain ⟨front, digit, isConcat, isDigit⟩ := fraction.exists_concat
    refine ⟨whole.digits ++ '.' :: front, digit, ?_, isDigit⟩
    rw [List.append_assoc, List.cons_append, ← isConcat]
    rfl

theorem isDigit_or_eq_of_mem_text (version : Version) {char : Char}
    (member : char ∈ version.text) : char.isDigit = true ∨ char = '.' := by
  rcases version with ⟨whole, _ | fraction⟩
  · rw [text, Option.elim_none, List.append_nil] at member
    exact Or.inl (whole.allDigits char member)
  · rw [text, Option.elim_some, List.mem_append, List.mem_cons] at member
    rcases member with inWhole | isPoint | inFraction
    · exact Or.inl (whole.allDigits char inWhole)
    · exact Or.inr isPoint
    · exact Or.inl (fraction.allDigits char inFraction)

end Version

theorem digitsValue?_eq_decimal? {digits : List Char} (nonempty : digits ≠ []) :
    Edition.digitsValue? digits = Text.decimal? digits := by
  cases digits with
  | nil => exact absurd rfl nonempty
  | cons digit rest => rfl

theorem releaseOf?_text (version : Version) : releaseOf? version.text = some version.release := by
  rcases version with ⟨whole, _ | fraction⟩
  · have taken : whole.digits.takeWhile Char.isDigit = whole.digits :=
      List.takeWhile_eq_self_iff.mpr whole.allDigits
    have dropped : whole.digits.dropWhile Char.isDigit = [] :=
      List.dropWhile_eq_nil_iff.mpr whole.allDigits
    have something : whole.digits.isEmpty = false := by simpa using whole.nonempty
    simp only [Version.text, Option.elim_none, List.append_nil, releaseOf?, taken, dropped,
      Option.bind_some, something, Bool.false_eq_true, if_false]
    rw [digitsValue?_eq_decimal? whole.nonempty, whole.decimal?_digits, Option.map_some]
    simp [Version.release, Version.number, Version.places, Version.major, Version.minor]
  · have taken : (whole.digits ++ '.' :: fraction.digits).takeWhile Char.isDigit =
        whole.digits :=
      Text.takeWhile_append_cons whole.allDigits rfl fraction.digits
    have dropped : (whole.digits ++ '.' :: fraction.digits).dropWhile Char.isDigit =
        '.' :: fraction.digits :=
      Text.dropWhile_append_cons whole.allDigits rfl fraction.digits
    have something : whole.digits.isEmpty = false := by simpa using whole.nonempty
    have more : fraction.digits.isEmpty = false := by simpa using fraction.nonempty
    have nonempty : whole.digits ++ fraction.digits ≠ [] :=
      List.append_ne_nil_of_left_ne_nil whole.nonempty fraction.digits
    simp only [Version.text, Option.elim_some, releaseOf?, taken, dropped, more,
      Option.bind_some, something, Bool.false_eq_true, if_false]
    rw [digitsValue?_eq_decimal? nonempty, Text.Numeral.decimal?_append]
    rfl

/-! ## Names -/

theorem isNameChar_of_ofName? {name : String} {browser : Browser}
    (known : Browser.ofName? name = some browser) :
    name.toList ≠ [] ∧ ∀ char ∈ name.toList, isNameChar char = true := by
  rw [← List.all_eq_true]
  unfold Browser.ofName? at known
  split at known
  all_goals first | decide | cases known

theorem isNameChar_eq_false_of_isWhiteSpace {char : Char} (blank : Text.isWhiteSpace char = true) :
    isNameChar char = false := by
  have notUnderscore : char ≠ '_' := by
    rintro rfl
    cases blank
  rw [isNameChar, Text.isAlpha_eq_false_of_isWhiteSpace blank, Bool.false_or]
  exact beq_eq_false_iff_ne.mpr notUnderscore

theorem isNameChar_eq_false_of_isDigit {char : Char} (isDigit : char.isDigit = true) :
    isNameChar char = false := by
  have notUnderscore : char ≠ '_' := by
    rintro rfl
    cases isDigit
  rw [isNameChar, Text.isAlpha_eq_false_of_isDigit isDigit, Bool.false_or]
  exact beq_eq_false_iff_ne.mpr notUnderscore

theorem isNameChar_toLower (char : Char) : isNameChar char.toLower = isNameChar char := by
  cases letter : char.isAlpha with
  | false => rw [Text.toLower_eq_of_isAlpha_eq_false letter]
  | true => rw [isNameChar, isNameChar, Text.isAlpha_toLower, letter, Bool.true_or, Bool.true_or]

/-! ## Relations -/

/-- A text between a name and a version: whether the version itself is left out. -/
inductive Relates : Bool → List Char → Prop
  | plainly {blanks : List Char} (white : ∀ char ∈ blanks, Text.isWhiteSpace char = true) :
      Relates false blanks
  | atLeast {before after : List Char}
      (whiteBefore : ∀ char ∈ before, Text.isWhiteSpace char = true)
      (whiteAfter : ∀ char ∈ after, Text.isWhiteSpace char = true) :
      Relates false (before ++ '>' :: '=' :: after)
  | above {before after : List Char}
      (whiteBefore : ∀ char ∈ before, Text.isWhiteSpace char = true)
      (whiteAfter : ∀ char ∈ after, Text.isWhiteSpace char = true) :
      Relates true (before ++ '>' :: after)

theorem relation_digit {digit : Char} (isDigit : digit.isDigit = true) (rest : List Char) :
    relation (digit :: rest) = (false, digit :: rest) := by
  unfold relation
  split
  · next equal => cases equal; cases isDigit
  · next equal => cases equal; cases isDigit
  · rfl

theorem relation_above {text : List Char} (noEqualsSign : ∀ rest, text ≠ '=' :: rest) :
    relation ('>' :: text) = (true, text) := by
  unfold relation
  split
  · next equal => exact absurd (List.cons.inj equal).2 (noEqualsSign _)
  · next equal => cases equal; rfl
  · next noSign => exact absurd rfl (noSign text)

namespace Relates

variable {exclusive : Bool} {link : List Char}

theorem relation_append (relates : Relates exclusive link) {digit : Char}
    (isDigit : digit.isDigit = true) (rest : List Char) :
    ∃ blanks, (∀ blank ∈ blanks, Text.isWhiteSpace blank = true) ∧
      relation ((link ++ digit :: rest).dropWhile Text.isWhiteSpace) =
        (exclusive, blanks ++ digit :: rest) := by
  cases relates with
  | plainly white =>
      refine ⟨[], by simp, ?_⟩
      rw [Text.dropWhile_append_cons white (Text.isWhiteSpace_eq_false_of_isDigit isDigit)]
      exact relation_digit isDigit rest
  | @atLeast before after whiteBefore whiteAfter =>
      refine ⟨after, whiteAfter, ?_⟩
      rw [List.append_assoc, List.cons_append,
        Text.dropWhile_append_cons whiteBefore rfl]
      rfl
  | @above before after whiteBefore whiteAfter =>
      refine ⟨after, whiteAfter, ?_⟩
      rw [List.append_assoc, List.cons_append,
        Text.dropWhile_append_cons whiteBefore rfl]
      refine relation_above fun more equal => ?_
      cases after with
      | nil =>
          cases (List.cons.inj equal).1
          cases isDigit
      | cons blank others =>
          cases (List.cons.inj equal).1
          cases whiteAfter _ List.mem_cons_self

theorem isNameChar_eq_false (relates : Relates exclusive link) :
    ∀ char ∈ link, isNameChar char = false := by
  intro char member
  have blanks : ∀ blanks : List Char, (∀ blank ∈ blanks, Text.isWhiteSpace blank = true) →
      char ∈ blanks → isNameChar char = false :=
    fun _ white inside => isNameChar_eq_false_of_isWhiteSpace (white char inside)
  cases relates with
  | plainly white => exact blanks _ white member
  | atLeast whiteBefore whiteAfter =>
      simp only [List.mem_append, List.mem_cons] at member
      rcases member with inside | rfl | rfl | inside
      · exact blanks _ whiteBefore inside
      · decide
      · decide
      · exact blanks _ whiteAfter inside
  | above whiteBefore whiteAfter =>
      simp only [List.mem_append, List.mem_cons] at member
      rcases member with inside | rfl | inside
      · exact blanks _ whiteBefore inside
      · decide
      · exact blanks _ whiteAfter inside

end Relates

/-! ## Whole targets -/

section Targets

variable {name link : List Char} {browser : Browser} {exclusive : Bool}

theorem isNameChar_lowerAscii
    (known : Browser.ofName? (String.ofList (Text.lowerAscii name)) = some browser) :
    Text.lowerAscii name ≠ [] ∧ ∀ char ∈ Text.lowerAscii name, isNameChar char = true := by
  have nameChars := isNameChar_of_ofName? known
  rw [String.toList_ofList] at nameChars
  exact nameChars

theorem isWhiteSpace_eq_false_of_known
    (known : Browser.ofName? (String.ofList (Text.lowerAscii name)) = some browser) :
    ∀ char ∈ name, Text.isWhiteSpace char = false := by
  intro char member
  have nameChar := (isNameChar_lowerAscii known).2 char.toLower (List.mem_map_of_mem member)
  rw [isNameChar_toLower] at nameChar
  refine Bool.eq_false_iff.mpr fun blank => ?_
  rw [isNameChar_eq_false_of_isWhiteSpace blank] at nameChar
  cases nameChar

theorem trim_named (known : Browser.ofName? (String.ofList (Text.lowerAscii name)) = some browser)
    (rest : List Char) :
    Text.trim (name ++ rest) = name ++ rest.rdropWhile Text.isWhiteSpace := by
  have nonempty : name ≠ [] := mt (congrArg Text.lowerAscii) (isNameChar_lowerAscii known).1
  exact Text.trim_visible_append nonempty (isWhiteSpace_eq_false_of_known known) rest

theorem isNameChar_eq_false_behind (relates : Relates exclusive link) (version : Version) :
    ∀ char ∈ link ++ version.text, isNameChar char = false := by
  intro char member
  rcases List.mem_append.mp member with inLink | inVersion
  · exact relates.isNameChar_eq_false char inLink
  · rcases version.isDigit_or_eq_of_mem_text inVersion with isDigit | rfl
    · exact isNameChar_eq_false_of_isDigit isDigit
    · decide

theorem lowerAscii_query (relates : Relates exclusive link) (version : Version) :
    Text.lowerAscii (name ++ (link ++ version.text)) =
      Text.lowerAscii name ++ (link ++ version.text) := by
  have noLetters : ∀ char ∈ link ++ version.text, char.isAlpha = false := by
    intro char member
    have noNameChar := isNameChar_eq_false_behind relates version char member
    exact (Bool.or_eq_false_iff.mp noNameChar).1
  rw [Text.lowerAscii_append, Text.lowerAscii_eq_self noLetters]

theorem trim_query
    (known : Browser.ofName? (String.ofList (Text.lowerAscii name)) = some browser)
    (link : List Char) (version : Version) :
    Text.trim (name ++ (link ++ version.text)) = name ++ (link ++ version.text) := by
  obtain ⟨front, last, ends, isLastDigit⟩ := version.text_ends
  have lastVisible := Text.isWhiteSpace_eq_false_of_isDigit isLastDigit
  have wholeEnds : link ++ version.text = link ++ front ++ [last] := by
    rw [ends, List.append_assoc]
  rw [trim_named known, wholeEnds, List.rdropWhile_concat_neg _ _ _ (by simp [lastVisible])]

theorem isNameChar_eq_false_of_mem_head? (relates : Relates exclusive link) (version : Version) :
    ∀ char ∈ (link ++ version.text).head?, isNameChar char = false := fun char isFirst =>
  isNameChar_eq_false_behind relates version char (List.mem_of_mem_head? isFirst)

/-- What a text asks of a browser whose name stands before it. -/
def askedOf (browser : Browser) (rest : List Char) : Option Target :=
  let (exclusive, number) := relation (rest.dropWhile Text.isWhiteSpace)
  (releaseOf? (number.dropWhile Text.isWhiteSpace)).map fun release =>
    if exclusive then .after browser release else .since browser release

theorem askedOf_link (browser : Browser) (relates : Relates exclusive link) (version : Version) :
    askedOf browser (link ++ version.text) =
      some (if exclusive then .after browser version.release
        else .since browser version.release) := by
  obtain ⟨digit, rest, begins, isDigit⟩ := version.text_begins
  obtain ⟨blanks, white, related⟩ := relates.relation_append isDigit rest
  rw [← begins] at related
  have number : (blanks ++ version.text).dropWhile Text.isWhiteSpace = version.text := by
    rw [begins]
    exact Text.dropWhile_append_cons white (Text.isWhiteSpace_eq_false_of_isDigit isDigit) rest
  simp only [askedOf, related, number, releaseOf?_text, Option.map_some]

theorem named_ne_phrase {rest : List Char}
    (known : Browser.ofName? (String.ofList (Text.lowerAscii name)) = some browser)
    (stops : ∀ char ∈ rest.head?, isNameChar char = false) :
    ¬(Text.lowerAscii name ++ rest = "fully supports es6-module".toList ∨
      Text.lowerAscii name ++ rest = "supports es6-module".toList) := by
  have unknown : ∀ phrase ∈ ["fully supports es6-module", "supports es6-module"],
      Browser.ofName? (String.ofList (phrase.toList.takeWhile isNameChar)) = none := by
    decide
  have word := Text.takeWhile_append_stopped (isNameChar_lowerAscii known).2 stops
  rintro (phrase | phrase)
  · rw [← word, phrase, unknown _ (by decide)] at known
    cases known
  · rw [← word, phrase, unknown _ (by decide)] at known
    cases known

theorem ofText?_named {text : String} {rest : List Char}
    (query : Text.lowerAscii (Text.trim text.toList) = Text.lowerAscii name ++ rest)
    (known : Browser.ofName? (String.ofList (Text.lowerAscii name)) = some browser)
    (stops : ∀ char ∈ rest.head?, isNameChar char = false) :
    ofText? text = askedOf browser rest := by
  have nameChars := (isNameChar_lowerAscii known).2
  simp only [ofText?, query, if_neg (named_ne_phrase known stops),
    Text.takeWhile_append_stopped nameChars stops, Text.dropWhile_append_stopped nameChars stops,
    known, askedOf, Option.map_eq_bind, Option.bind_some, Function.comp_def]

theorem ofText?_query
    (known : Browser.ofName? (String.ofList (Text.lowerAscii name)) = some browser)
    (relates : Relates exclusive link) (version : Version) :
    ofText? (String.ofList (name ++ (link ++ version.text))) =
      some (if exclusive then .after browser version.release
        else .since browser version.release) := by
  have query : Text.lowerAscii
      (Text.trim (String.ofList (name ++ (link ++ version.text))).toList) =
        Text.lowerAscii name ++ (link ++ version.text) := by
    rw [String.toList_ofList, trim_query known, lowerAscii_query relates]
  rw [ofText?_named query known (isNameChar_eq_false_of_mem_head? relates version),
    askedOf_link browser relates]

end Targets

end EditionGuard.Target
