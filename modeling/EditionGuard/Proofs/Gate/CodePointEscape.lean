import EditionGuard.Proofs.Gate.Accepted
import EditionGuard.Proofs.Text.Backslash
import EditionGuard.Proofs.Text.Search

/-!
# Code point escapes in strings

A string literal holds a code point escape where `\u` and an opening brace follow an even
number of backslashes.  No such escape escapes the gate, but the gate looks only for the three
characters: it asks as well where the backslash is itself escaped, so that the literal means
the three characters and not a code point.
-/

namespace EditionGuard.Gate

open EditionGuard.Script

def codePointOpening : List Char := ['\\', 'u', '{']

/-- Whether a code point escape begins at a place of a string literal: its backslash is not
escaped by the backslashes before it. -/
def OpensCodePointAt (raw : List Char) (place : Nat) : Prop :=
  codePointOpening <+: raw.drop place ∧ Even (Text.finalBackslashes (raw.take place))

instance (raw : List Char) (place : Nat) : Decidable (OpensCodePointAt raw place) :=
  inferInstanceAs (Decidable (_ ∧ _))

/-- Whether a string literal holds a code point escape. -/
def HasCodePointEscape (raw : List Char) : Prop :=
  ∃ place < raw.length, OpensCodePointAt raw place

instance (raw : List Char) : Decidable (HasCodePointEscape raw) :=
  inferInstanceAs (Decidable (∃ place < raw.length, OpensCodePointAt raw place))

theorem OpensCodePointAt.hasCodePointEscape {raw : List Char} {place : Nat}
    (opens : OpensCodePointAt raw place) : HasCodePointEscape raw :=
  ⟨place, Text.lt_length_of_prefix_drop (by decide) opens.1, opens⟩

section Literal

variable {code raw : List Char} {goal : Goal} {tree literal : Node} {around : List Construct}

theorem asks_codePointEscape_iff (isString : literal.construct = .stringLiteral raw) :
    Occurrence.Asks code ⟨around, literal⟩ .codePointEscape ↔
      ∃ place, codePointOpening <+: raw.drop place := by
  obtain ⟨construct, span, parts⟩ := literal
  obtain rfl : construct = .stringLiteral raw := isString
  rw [← Text.occurs_iff]
  change _ ∈ (if Text.occurs codePointOpening raw then [_] else []) ↔ _
  split <;> simp_all [Node.span]

/-- At each string literal of a program the gate asks for code point escapes if and only if a
backslash, `u` and a brace follow each other in it.  So no code point escape is overlooked, and
a program with one is refused below ES2015; and the gate asks for these escapes only, where
none of the backslashes is escaped itself. -/
theorem codePointEscapes_asked (read : Script.read goal code = .ok tree)
    (occurs : Occurs tree around literal) (isString : literal.construct = .stringLiteral raw) :
    (Occurrence.Asks code ⟨around, literal⟩ .codePointEscape ↔
      ∃ place, codePointOpening <+: raw.drop place) ∧
    (HasCodePointEscape raw →
      Occurrence.Asks code ⟨around, literal⟩ .codePointEscape ∧
        ∀ target < .es2015, check code target goal ≠ none) ∧
    ((∀ place, codePointOpening <+: raw.drop place →
        Even (Text.finalBackslashes (raw.take place))) →
      (Occurrence.Asks code ⟨around, literal⟩ .codePointEscape ↔ HasCodePointEscape raw)) := by
  have asksIff : Occurrence.Asks code ⟨around, literal⟩ .codePointEscape ↔
      ∃ place, codePointOpening <+: raw.drop place :=
    asks_codePointEscape_iff isString
  have asksOfEscape : HasCodePointEscape raw →
      Occurrence.Asks code ⟨around, literal⟩ .codePointEscape := by
    rintro ⟨place, _, stands, _⟩
    exact asksIff.mpr ⟨place, stands⟩
  refine ⟨asksIff, ?_, ?_⟩
  · intro escape
    refine ⟨asksOfEscape escape, ?_⟩
    intro target below
    exact check_ne_none_of_asks read occurs (asksOfEscape escape) below
  · intro unescaped
    refine ⟨?_, asksOfEscape⟩
    intro asks
    obtain ⟨place, stands⟩ := asksIff.mp asks
    have opens : OpensCodePointAt raw place := ⟨stands, unescaped place stands⟩
    exact opens.hasCodePointEscape

end Literal

/-- A literal with an escaped backslash and, right behind it, a code point escape. -/
def escapeAfterBackslash : List Char := "'\\\\\\u\x7b61\x7d'".toList

/-- The third of three backslashes begins a code point escape, and the gate asks for it. -/
theorem codePointEscapes_asked_escapeAfterBackslash :
    ∃ tree, Script.read .script ("s = ".toList ++ escapeAfterBackslash) = .ok tree ∧
      ∃ around literal, Occurs tree around literal ∧
        literal.construct = .stringLiteral escapeAfterBackslash ∧
          HasCodePointEscape escapeAfterBackslash ∧
          check ("s = ".toList ++ escapeAfterBackslash) .es5 .script ≠ none := by
  obtain ⟨tree, read, holdsLiteral⟩ := exists_read_of_any
    (fun tree => (occurrences [] tree).any fun occurrence =>
      occurrence.node.construct == .stringLiteral escapeAfterBackslash)
    (by decide +kernel :
      (Script.read .script ("s = ".toList ++ escapeAfterBackslash)).toOption.any _ = true)
  obtain ⟨around, literal, occurs, passes⟩ := any_occurrences_iff.mp holdsLiteral
  have isString : literal.construct = .stringLiteral escapeAfterBackslash :=
    beq_iff_eq.mp passes
  have escape : HasCodePointEscape escapeAfterBackslash := by decide +kernel
  exact ⟨tree, read, around, literal, occurs, isString, escape,
    ((codePointEscapes_asked read occurs isString).2.1 escape).2 .es5 (by decide)⟩

/-- A literal with an escaped backslash before a `u` and a number in braces. -/
def escapedBackslash : List Char := "'\\\\u\x7b61\x7d'".toList

/-- The gate refuses a program although its only literal holds no code point escape. -/
theorem refuses_without_codePointEscape :
    check ("s = ".toList ++ escapedBackslash) .es5 .script =
        some ⟨"Unexpected token: unicode code point escape requires es2015", 4, ⟨1, 4⟩⟩ ∧
      ¬ HasCodePointEscape escapedBackslash ∧
      ∃ tree, Script.read .script ("s = ".toList ++ escapedBackslash) = .ok tree ∧
        ∀ around literal raw, Occurs tree around literal →
          literal.construct = .stringLiteral raw → raw = escapedBackslash := by
  refine ⟨by decide +kernel, by decide +kernel, ?_⟩
  obtain ⟨tree, read, allLiterals⟩ := exists_read_of_any
    (fun tree => (occurrences [] tree).all fun occurrence =>
      match occurrence.node.construct with
      | .stringLiteral raw => raw == escapedBackslash
      | _ => true)
    (by decide +kernel :
      (Script.read .script ("s = ".toList ++ escapedBackslash)).toOption.any _ = true)
  refine ⟨tree, read, ?_⟩
  rintro around literal raw occurs isString
  have passes := List.all_eq_true.mp allLiterals _ (mem_occurrences_iff.mpr occurs)
  simpa only [isString, beq_iff_eq] using passes

end EditionGuard.Gate
