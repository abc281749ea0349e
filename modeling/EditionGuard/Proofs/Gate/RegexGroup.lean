import EditionGuard.Proofs.Gate.Accepted
import EditionGuard.Proofs.Text.Backslash
import EditionGuard.Proofs.Text.Cut
import EditionGuard.Proofs.Text.Search

/-!
# Groups of regular expressions

A group opens at a parenthesis that is neither escaped nor inside of a character class.  The
gate looks for groups by their spelling alone.  So it finds each group that looks behind or
has a name, but takes an escaped parenthesis, or one in a class, for such a group too.  A
group with modifiers it finds unless a backslash stands right before the parenthesis, be it
that this backslash is itself escaped; and it finds what looks like one in a class.
-/

namespace EditionGuard.Gate

open EditionGuard.Script

namespace RegexForm

/-! ## Reading a pattern -/

/-- Where a reader of a pattern stands: behind a backslash that was taken alone, and inside
of a character class. -/
structure PatternPlace where
  escaped : Bool
  inClass : Bool
deriving DecidableEq, Repr, Inhabited

def PatternPlace.next (place : PatternPlace) (char : Char) : PatternPlace where
  escaped := Text.escapesNext place.escaped char
  inClass :=
    if place.escaped then place.inClass
    else if char = '[' then true
    else if char = ']' then false
    else place.inClass

/-- The place behind the beginning of a pattern. -/
def placeBehind (front : List Char) : PatternPlace := front.foldl .next ⟨false, false⟩

theorem escaped_placeBehind (front : List Char) :
    (placeBehind front).escaped = Text.endsInEscape front := by
  induction front using List.reverseRecOn with
  | nil => rfl
  | append_singleton front char inductionHypothesis =>
      have last : placeBehind (front ++ [char]) = (placeBehind front).next char := by
        simp [placeBehind]
      rw [last, Text.endsInEscape_concat, ← inductionHypothesis]
      rfl

/-- Whether a group that begins with a question mark opens at a place of a pattern: the
parenthesis is not escaped by the backslashes before it, and not inside of a class. -/
structure OpensGroupAt (pattern : List Char) (place : Nat) : Prop where
  stands : ['(', '?'] <+: pattern.drop place
  unescaped : Even (Text.finalBackslashes (pattern.take place))
  outsideClass : (placeBehind (pattern.take place)).inClass = false

theorem opensGroupAt_iff {pattern : List Char} {place : Nat} :
    OpensGroupAt pattern place ↔
      ['(', '?'] <+: pattern.drop place ∧ placeBehind (pattern.take place) = ⟨false, false⟩ := by
  have same : ∀ behind : PatternPlace,
      behind = ⟨false, false⟩ ↔ behind.escaped = false ∧ behind.inClass = false := by
    rintro ⟨escaped, inClass⟩
    simp
  rw [same, escaped_placeBehind, Text.endsInEscape_eq_false_iff]
  constructor
  · rintro ⟨stands, unescaped, outsideClass⟩
    exact ⟨stands, unescaped, outsideClass⟩
  · rintro ⟨stands, unescaped, outsideClass⟩
    exact ⟨stands, unescaped, outsideClass⟩

instance (pattern : List Char) (place : Nat) : Decidable (OpensGroupAt pattern place) :=
  decidable_of_iff _ opensGroupAt_iff.symm

/-! ## Modifiers -/

/-- Letters that are set or, behind a minus sign, unset: one at least, and a colon behind
them. -/
inductive SwitchesModifiers : List Char → Prop
  | set {set rest : List Char} (letters : ∀ char ∈ set, isModifier char = true)
      (something : set ≠ []) : SwitchesModifiers (set ++ ':' :: rest)
  | unset {set unset rest : List Char} (letters : ∀ char ∈ set, isModifier char = true)
      (unsetLetters : ∀ char ∈ unset, isModifier char = true)
      (something : set ≠ [] ∨ unset ≠ []) :
      SwitchesModifiers (set ++ '-' :: (unset ++ ':' :: rest))

theorem startsWithModifiers_iff {text : List Char} :
    startsWithModifiers text = true ↔ SwitchesModifiers text := by
  constructor
  · intro starts
    have whole := List.takeWhile_append_dropWhile (p := isModifier) (l := text)
    have letters : ∀ char ∈ text.takeWhile isModifier, isModifier char = true :=
      fun _ member => List.mem_takeWhile_imp member
    unfold startsWithModifiers at starts
    split at starts
    · next rest stop =>
        rw [← whole, stop]
        exact .set letters (by simpa using starts)
    · next rest stop =>
        obtain ⟨colon, something⟩ := Bool.and_eq_true_iff.mp starts
        obtain ⟨more, behind⟩ : ∃ more, rest.dropWhile isModifier = ':' :: more := by
          cases dropped : rest.dropWhile isModifier with
          | nil => simp [dropped] at colon
          | cons first more =>
              rw [dropped] at colon
              exact ⟨more, by simpa using colon⟩
        rw [← whole, stop, ← List.takeWhile_append_dropWhile (p := isModifier) (l := rest),
          behind]
        exact .unset letters (fun _ member => List.mem_takeWhile_imp member)
          (by simpa [imp_iff_not_or] using something)
    · cases starts
  · rintro (@⟨set, rest, letters, something⟩ |
      @⟨set, unset, rest, letters, unsetLetters, something⟩)
    · rw [startsWithModifiers, Text.takeWhile_append_cons letters rfl,
        Text.dropWhile_append_cons letters rfl]
      simpa using something
    · rw [startsWithModifiers, Text.takeWhile_append_cons letters rfl,
        Text.dropWhile_append_cons letters rfl]
      have colon : isModifier ':' = false := rfl
      simp only [Text.takeWhile_append_cons unsetLetters colon,
        Text.dropWhile_append_cons unsetLetters colon]
      simpa [imp_iff_not_or] using something

instance (text : List Char) : Decidable (SwitchesModifiers text) :=
  decidable_of_iff _ startsWithModifiers_iff

/-- Whether a text begins with the spelling of a group with modifiers. -/
def BeginsModifierGroup (text : List Char) : Prop :=
  ['(', '?'] <+: text ∧ SwitchesModifiers (text.drop 2)

instance (text : List Char) : Decidable (BeginsModifierGroup text) :=
  inferInstanceAs (Decidable (_ ∧ _))

theorem hasModifiers_cons_iff {before : Option Char} {char : Char} {rest : List Char} :
    hasModifiers before (char :: rest) = true ↔
      before ≠ some '\\' ∧ BeginsModifierGroup (char :: rest) ∨
        hasModifiers (some char) rest = true := by
  rw [BeginsModifierGroup, List.cons_prefix_cons]
  cases rest with
  | nil => simp [hasModifiers]
  | cons second more =>
      by_cases question : second = '?'
      · subst question
        have spelt : SwitchesModifiers more ↔ startsWithModifiers more = true :=
          startsWithModifiers_iff.symm
        simp [hasModifiers, spelt, and_assoc, @eq_comm _ '(']
      · simp [hasModifiers, question, Ne.symm question]

/-- A group with modifiers is found if and only if it is spelt somewhere with no backslash
right before it. -/
theorem hasModifiers_iff {before : Option Char} {text : List Char} :
    hasModifiers before text = true ↔
      ∃ place, (before.toList ++ text.take place).getLast? ≠ some '\\' ∧
        BeginsModifierGroup (text.drop place) := by
  induction text generalizing before with
  | nil => simp [hasModifiers, BeginsModifierGroup]
  | cons char rest inductionHypothesis =>
      rw [Text.exists_place_cons_iff fun front back =>
        (before.toList ++ front).getLast? ≠ some '\\' ∧ BeginsModifierGroup back]
      have later : ∀ place, (before.toList ++ char :: rest.take place).getLast? =
          ((some char).toList ++ rest.take place).getLast? := by
        intro place
        rw [List.getLast?_append_of_ne_nil _ (by simp)]
        rfl
      simp only [later, ← inductionHypothesis]
      rw [hasModifiers_cons_iff]
      cases before <;> simp

/-! ## Groups by their spelling -/

def literalText (body flags : List Char) : List Char := '/' :: body ++ '/' :: flags

theorem split_literalText {flags : List Char} (noSlash : '/' ∉ flags) (body : List Char) :
    split (literalText body flags) = ('/' :: body, flags) := by
  have reversed : (literalText body flags).reverse =
      flags.reverse ++ '/' :: ('/' :: body).reverse := by
    simp [literalText]
  have behind : (literalText body flags).reverse.takeWhile (· != '/') = flags.reverse := by
    rw [reversed, Text.takeWhile_ne_append (by simpa using noSlash)]
    simp
  have front : (literalText body flags).length - flags.reverse.length - 1 =
      ('/' :: body).length := by
    simp [literalText]
    omega
  rw [split, behind, front, List.reverse_reverse, literalText, List.take_left]

/-- How a group begins that looks behind or has a name. -/
def angleOpening : List Char := ['(', '?', '<']

theorem occurs_cons_slash_iff {wanted body : List Char} (something : wanted ≠ [])
    (noSlash : wanted.head? ≠ some '/') :
    Text.occurs wanted ('/' :: body) = true ↔ ∃ place, wanted <+: body.drop place := by
  rw [Text.occurs_iff, Text.exists_prefix_drop_cons_iff]
  refine or_iff_right ?_
  intro begins
  cases wanted with
  | nil => exact something rfl
  | cons first more =>
      obtain ⟨isSlash, _⟩ := List.cons_prefix_cons.mp begins
      exact noSlash (congrArg some isSlash)

def patternHolds (raw wanted : List Char) : Bool := Text.occurs wanted (split raw).1

/-- Of the four parts of the list, the second tells of groups with an angle bracket. -/
theorem features_eq (raw : List Char) :
    ∃ property : Bool, features raw =
      ((split raw).2.filter isDatedFlag).map .regexFlag ++
        (if patternHolds raw ['(', '?', '<', '='] = true ∨
            patternHolds raw ['(', '?', '<', '!'] = true then [.lookbehind]
          else if patternHolds raw angleOpening = true then [.namedGroup] else []) ++
        (if hasModifiers none (split raw).1 then [.regexModifiers] else []) ++
        (if property then [.propertyEscape] else []) := by
  refine ⟨(split raw).2.contains 'u' &&
    (patternHolds raw "\\p\x7b".toList || patternHolds raw "\\P\x7b".toList), ?_⟩
  simp only [← Bool.or_eq_true]
  rfl

theorem lookbehind_or_namedGroup_mem_features_iff {raw : List Char} :
    .lookbehind ∈ features raw ∨ .namedGroup ∈ features raw ↔
      patternHolds raw angleOpening = true := by
  have wider : ∀ char, patternHolds raw ['(', '?', '<', char] = true →
      patternHolds raw angleOpening = true := by
    intro char longer
    obtain ⟨place, stands⟩ := Text.occurs_iff.mp longer
    have shorter : angleOpening <+: ['(', '?', '<', char] := ⟨[char], rfl⟩
    exact Text.occurs_iff.mpr ⟨place, shorter.trans stands⟩
  obtain ⟨property, parts⟩ := features_eq raw
  rw [parts]
  simp only [List.mem_append, List.mem_map, List.mem_ite_nil_right, List.mem_singleton,
    reduceCtorEq, and_false, exists_false, or_false, false_or]
  split
  · next longer =>
      have angle : patternHolds raw angleOpening = true := longer.elim (wider _) (wider _)
      simp [angle]
  · simp

theorem regexModifiers_mem_features_iff {raw : List Char} :
    .regexModifiers ∈ features raw ↔ hasModifiers none (split raw).1 = true := by
  obtain ⟨property, parts⟩ := features_eq raw
  rw [parts]
  simp only [List.mem_append, List.mem_map, List.mem_ite_nil_right, List.mem_singleton,
    reduceCtorEq, and_false, exists_false, or_false, false_or, and_true]
  split
  · simp
  · split <;> simp

/-- In a literal a group with modifiers is found if and only if it is spelt in the body with
no backslash right before it. -/
theorem hasModifiers_slash_iff {body : List Char} :
    hasModifiers none ('/' :: body) = true ↔
      ∃ place, Text.finalBackslashes (body.take place) = 0 ∧
        BeginsModifierGroup (body.drop place) := by
  rw [hasModifiers_iff, Text.exists_place_cons_iff fun front back =>
    ((none : Option Char).toList ++ front).getLast? ≠ some '\\' ∧ BeginsModifierGroup back]
  have notAtSlash : ¬ BeginsModifierGroup ('/' :: body) := by
    rintro ⟨begins, _⟩
    simp at begins
  have lastInBody : ∀ front : List Char,
      ('/' :: front).getLast? ≠ some '\\' ↔ Text.finalBackslashes front = 0 := by
    intro front
    rw [Text.finalBackslashes_eq_zero_iff, List.getLast?_cons]
    cases front.getLast? <;> simp
  simp only [notAtSlash, and_false, false_or, Option.toList_none, List.nil_append, lastInBody]

/-! ## Groups that open -/

/-- Whether a pattern has a group that looks behind or has a name. -/
def HasAngleGroup (pattern : List Char) : Prop :=
  ∃ place < pattern.length, OpensGroupAt pattern place ∧ angleOpening <+: pattern.drop place

instance (pattern : List Char) : Decidable (HasAngleGroup pattern) :=
  inferInstanceAs (Decidable (∃ place < pattern.length, _ ∧ _))

/-- Whether a pattern has a group with modifiers. -/
def HasModifierGroup (pattern : List Char) : Prop :=
  ∃ place < pattern.length,
    OpensGroupAt pattern place ∧ BeginsModifierGroup (pattern.drop place)

instance (pattern : List Char) : Decidable (HasModifierGroup pattern) :=
  inferInstanceAs (Decidable (∃ place < pattern.length, _ ∧ _))

theorem OpensGroupAt.lt_length {pattern : List Char} {place : Nat}
    (opens : OpensGroupAt pattern place) : place < pattern.length :=
  Text.lt_length_of_prefix_drop (by decide) opens.stands

end RegexForm

section Literal

variable {code body flags : List Char} {goal : Goal} {tree literal : Node}
  {around : List Construct}

/-- Whether a node asks for a group that looks behind or has a name. -/
def Occurrence.AsksAngleGroup (code : List Char) (occurrence : Occurrence) : Prop :=
  occurrence.Asks code .lookbehind ∨ occurrence.Asks code .namedGroup

theorem asks_iff_mem_features {raw : List Char} {feature : Feature}
    (isRegex : literal.construct = .regexLiteral raw) :
    Occurrence.Asks code ⟨around, literal⟩ feature ↔ feature ∈ RegexForm.features raw := by
  obtain ⟨construct, span, parts⟩ := literal
  obtain rfl : construct = .regexLiteral raw := isRegex
  have own : Occurrence.requirements code ⟨around, .mk (.regexLiteral raw) span parts⟩ =
      (RegexForm.features raw).map fun feature => ⟨span.start, feature⟩ := rfl
  rw [Occurrence.Asks, own]
  simp [Node.span]

theorem asksAngleGroup_iff (noSlash : '/' ∉ flags)
    (isRegex : literal.construct = .regexLiteral (RegexForm.literalText body flags)) :
    Occurrence.AsksAngleGroup code ⟨around, literal⟩ ↔
      ∃ place, RegexForm.angleOpening <+: body.drop place := by
  rw [Occurrence.AsksAngleGroup, asks_iff_mem_features isRegex, asks_iff_mem_features isRegex,
    RegexForm.lookbehind_or_namedGroup_mem_features_iff, RegexForm.patternHolds,
    RegexForm.split_literalText noSlash,
    RegexForm.occurs_cons_slash_iff (by decide) (by decide)]

theorem asks_regexModifiers_iff (noSlash : '/' ∉ flags)
    (isRegex : literal.construct = .regexLiteral (RegexForm.literalText body flags)) :
    Occurrence.Asks code ⟨around, literal⟩ .regexModifiers ↔
      ∃ place, Text.finalBackslashes (body.take place) = 0 ∧
        RegexForm.BeginsModifierGroup (body.drop place) := by
  rw [asks_iff_mem_features isRegex, RegexForm.regexModifiers_mem_features_iff,
    RegexForm.split_literalText noSlash, RegexForm.hasModifiers_slash_iff]

/-- At each regular expression of a program the gate asks for lookbehind or a named group if
and only if `(?<` stands in the pattern, and for modifiers if and only if a group with
modifiers is spelt with no backslash right before it.  So no group that looks behind or has a
name is overlooked.  The gate is exact on the patterns where these spellings are groups, and
the groups with modifiers follow no backslash. -/
theorem regexGroups_asked (noSlash : '/' ∉ flags) (read : Script.read goal code = .ok tree)
    (occurs : Occurs tree around literal)
    (isRegex : literal.construct = .regexLiteral (RegexForm.literalText body flags)) :
    (Occurrence.AsksAngleGroup code ⟨around, literal⟩ ↔
      ∃ place, RegexForm.angleOpening <+: body.drop place) ∧
    (RegexForm.HasAngleGroup body → Occurrence.AsksAngleGroup code ⟨around, literal⟩) ∧
    ((∀ place, RegexForm.angleOpening <+: body.drop place → RegexForm.OpensGroupAt body place) →
      (Occurrence.AsksAngleGroup code ⟨around, literal⟩ ↔ RegexForm.HasAngleGroup body)) ∧
    (Occurrence.AsksAngleGroup code ⟨around, literal⟩ →
      ∀ target < .es2018, check code target goal ≠ none) ∧
    (Occurrence.Asks code ⟨around, literal⟩ .regexModifiers ↔
      ∃ place, Text.finalBackslashes (body.take place) = 0 ∧
        RegexForm.BeginsModifierGroup (body.drop place)) ∧
    ((∀ place, RegexForm.BeginsModifierGroup (body.drop place) →
        (Text.finalBackslashes (body.take place) = 0 ↔ RegexForm.OpensGroupAt body place)) →
      (Occurrence.Asks code ⟨around, literal⟩ .regexModifiers ↔
        RegexForm.HasModifierGroup body)) ∧
    (Occurrence.Asks code ⟨around, literal⟩ .regexModifiers →
      ∀ target < .es2025, check code target goal ≠ none) := by
  have angleIff : Occurrence.AsksAngleGroup code ⟨around, literal⟩ ↔
      ∃ place, RegexForm.angleOpening <+: body.drop place :=
    asksAngleGroup_iff noSlash isRegex
  have modifiersIff : Occurrence.Asks code ⟨around, literal⟩ .regexModifiers ↔
      ∃ place, Text.finalBackslashes (body.take place) = 0 ∧
        RegexForm.BeginsModifierGroup (body.drop place) :=
    asks_regexModifiers_iff noSlash isRegex
  have asksOfGroup : RegexForm.HasAngleGroup body →
      Occurrence.AsksAngleGroup code ⟨around, literal⟩ := by
    rintro ⟨place, _, _, stands⟩
    exact angleIff.mpr ⟨place, stands⟩
  refine ⟨angleIff, asksOfGroup, ?_, ?_, modifiersIff, ?_, ?_⟩
  · intro allOpen
    refine ⟨?_, asksOfGroup⟩
    intro asks
    obtain ⟨place, stands⟩ := angleIff.mp asks
    have opens := allOpen place stands
    exact ⟨place, opens.lt_length, opens, stands⟩
  · rintro (asks | asks) target below
    · exact check_ne_none_of_asks read occurs asks below
    · exact check_ne_none_of_asks read occurs asks below
  · intro plain
    rw [modifiersIff]
    constructor
    · rintro ⟨place, noBackslash, begins⟩
      have opens := (plain place begins).mp noBackslash
      exact ⟨place, opens.lt_length, opens, begins⟩
    · rintro ⟨place, _, opens, begins⟩
      exact ⟨place, (plain place begins).mpr opens, begins⟩
  · intro asks target below
    exact check_ne_none_of_asks read occurs asks below

end Literal

/-- A named group behind an escaped backslash, and a group with modifiers behind a class that
holds a parenthesis. -/
def groupsBehindEscapes : List Char := "\\\\(?<n>a)[(](?i:b)".toList

/-- The program `r = /…/` with a pattern between the slashes. -/
def assigningRegex (body : List Char) : List Char :=
  "r = ".toList ++ RegexForm.literalText body []

/-- Whether a tree holds a regular expression with a given pattern and no flags. -/
def holdsRegex (body : List Char) (tree : Node) : Bool :=
  (occurrences [] tree).any fun occurrence =>
    occurrence.node.construct == .regexLiteral (RegexForm.literalText body [])

theorem holdsRegex_iff {tree : Node} {body : List Char} :
    holdsRegex body tree = true ↔
      ∃ around literal, Occurs tree around literal ∧
        literal.construct = .regexLiteral (RegexForm.literalText body []) := by
  rw [holdsRegex, any_occurrences_iff]
  simp

/-- Both groups are asked for, although a backslash and a class stand before them. -/
theorem regexGroups_asked_groupsBehindEscapes :
    ∃ tree, Script.read .script (assigningRegex groupsBehindEscapes) = .ok tree ∧
      ∃ around literal, Occurs tree around literal ∧
        literal.construct = .regexLiteral (RegexForm.literalText groupsBehindEscapes []) ∧
          RegexForm.HasAngleGroup groupsBehindEscapes ∧
          check (assigningRegex groupsBehindEscapes) .es5 .script ≠ none ∧
          check (assigningRegex groupsBehindEscapes) .es2024 .script ≠ none := by
  obtain ⟨tree, read, holds⟩ := exists_read_of_any (holdsRegex groupsBehindEscapes)
    (by decide +kernel :
      (Script.read .script (assigningRegex groupsBehindEscapes)).toOption.any _ = true)
  obtain ⟨around, literal, occurs, isRegex⟩ := holdsRegex_iff.mp holds
  have group : RegexForm.HasAngleGroup groupsBehindEscapes := by decide +kernel
  obtain ⟨_, asksOfGroup, _, refusedForAngle, modifiersIff, _, refusedForModifiers⟩ :=
    regexGroups_asked List.not_mem_nil read occurs isRegex
  have asksModifiers := modifiersIff.mpr ⟨12, by decide +kernel, by decide +kernel⟩
  exact ⟨tree, read, around, literal, occurs, isRegex, group,
    refusedForAngle (asksOfGroup group) .es5 (by decide),
    refusedForModifiers asksModifiers .es2024 (by decide)⟩

def angleInClass : List Char := "[(?<]".toList

def modifiersBehindBackslash : List Char := "\\\\(?i:a)".toList

/-- The gate refuses a program for a group that is only spelt in a class, and accepts a
program whose group with modifiers follows an escaped backslash. -/
theorem regexGroups_mistaken :
    ((∃ tree, Script.read .script (assigningRegex angleInClass) = .ok tree ∧
        holdsRegex angleInClass tree = true) ∧
      ¬ RegexForm.HasAngleGroup angleInClass ∧
      check (assigningRegex angleInClass) .es5 .script =
        some ⟨"Unexpected token: regular expression named group requires es2018", 4, ⟨1, 4⟩⟩) ∧
    (∃ tree, Script.read .script (assigningRegex modifiersBehindBackslash) = .ok tree ∧
        holdsRegex modifiersBehindBackslash tree = true) ∧
      RegexForm.HasModifierGroup modifiersBehindBackslash ∧
      check (assigningRegex modifiersBehindBackslash) .es2024 .script = none := by
  refine ⟨⟨?_, by decide +kernel, by decide +kernel⟩, ?_, by decide +kernel, by decide +kernel⟩
  · exact exists_read_of_any _ (by decide +kernel)
  · exact exists_read_of_any _ (by decide +kernel)

end EditionGuard.Gate
