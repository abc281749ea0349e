import EditionGuard.Proofs.Text.CharClass
import EditionGuard.Text.Digit
import EditionGuard.Text.Paint
import Mathlib.Data.List.Induction
import Mathlib.Tactic.Ring

/-!
# Decimal numerals

The digits that stand for a natural number.  A numeral may begin with zeros.
-/

namespace EditionGuard.Text

/-- A run of decimal digits that is not empty. -/
structure Numeral where
  digits : List Char
  nonempty : digits ≠ []
  allDigits : ∀ char ∈ digits, char.isDigit = true

theorem decimalDigit?_of_isDigit {char : Char} (isDigit : char.isDigit = true) :
    decimalDigit? char = some (char.toNat - 48) :=
  if_pos isDigit

theorem isDigit_of_decimalDigit? {char : Char} {digit : Nat}
    (read : decimalDigit? char = some digit) :
    char.isDigit = true ∧ digit = char.toNat - 48 := by
  unfold decimalDigit? at read
  split at read
  · next isDigit => exact ⟨isDigit, (Option.some.inj read).symm⟩
  · cases read

theorem lt_ten_of_decimalDigit? {char : Char} {digit : Nat}
    (read : decimalDigit? char = some digit) : digit < 10 := by
  obtain ⟨isDigit, rfl⟩ := isDigit_of_decimalDigit? read
  have range := isDigit_iff.mp isDigit
  omega

/-- A value in front of digits weighs as much as their number says. -/
theorem numberFrom?_eq_map (value : Nat) (digits : List Char) :
    numberFrom? 10 decimalDigit? value digits =
      (decimal? digits).map fun number => value * 10 ^ digits.length + number := by
  unfold decimal?
  induction digits generalizing value with
  | nil => simp
  | cons char rest inductionHypothesis =>
      rw [numberFrom?, numberFrom?]
      cases read : decimalDigit? char with
      | none => rfl
      | some digit =>
          rw [Option.bind_some, Option.bind_some, inductionHypothesis,
            inductionHypothesis (0 * 10 + digit), Option.map_map, List.length_cons]
          refine congrArg (Option.map · _) (funext fun number => ?_)
          simp only [Function.comp_apply]
          ring

theorem lt_pow_of_decimal? {digits : List Char} {number : Nat}
    (read : decimal? digits = some number) : number < 10 ^ digits.length := by
  induction digits generalizing number with
  | nil =>
      cases read
      exact Nat.one_pos
  | cons char rest inductionHypothesis =>
      rw [decimal?, numberFrom?, Option.bind_eq_some_iff] at read
      obtain ⟨digit, isDigit, further⟩ := read
      rw [numberFrom?_eq_map, Option.map_eq_some_iff] at further
      obtain ⟨tail, readTail, rfl⟩ := further
      have tailSmall := inductionHypothesis readTail
      have digitSmall := lt_ten_of_decimalDigit? isDigit
      calc
        (0 * 10 + digit) * 10 ^ rest.length + tail <
            (0 * 10 + digit) * 10 ^ rest.length + 10 ^ rest.length :=
          Nat.add_lt_add_left tailSmall _
        _ = (digit + 1) * 10 ^ rest.length := by ring
        _ ≤ 10 * 10 ^ rest.length := Nat.mul_le_mul_right _ digitSmall
        _ = 10 ^ (char :: rest).length := by rw [List.length_cons]; ring

theorem decimal_ne_nil {number : Nat} : decimal number ≠ [] :=
  Nat.toDigits_ne_nil

theorem isDigit_of_mem_decimal {number : Nat} {char : Char} (member : char ∈ decimal number) :
    char.isDigit = true :=
  Nat.isDigit_of_mem_toDigits (by decide) (by decide) member

theorem not_mem_decimal {number : Nat} {char : Char} (noDigit : char.isDigit = false) :
    char ∉ decimal number := by
  intro member
  have digit := isDigit_of_mem_decimal member
  rw [noDigit] at digit
  cases digit

theorem numberFrom?_of_isDigit {digits : List Char}
    (allDigits : ∀ char ∈ digits, char.isDigit = true) (value : Nat) :
    numberFrom? 10 decimalDigit? value digits = some (Nat.ofDigitChars 10 digits value) := by
  induction digits generalizing value with
  | nil => rfl
  | cons char rest inductionHypothesis =>
      have first := decimalDigit?_of_isDigit (allDigits char List.mem_cons_self)
      have restDigits : ∀ other ∈ rest, other.isDigit = true := fun other member =>
        allDigits other (List.mem_cons_of_mem char member)
      rw [numberFrom?, first, Option.bind_some, inductionHypothesis restDigits, Nat.mul_comm]
      rfl

theorem decimal?_decimal (number : Nat) : decimal? (decimal number) = some number := by
  have allDigits : ∀ char ∈ decimal number, char.isDigit = true := fun char member =>
    isDigit_of_mem_decimal member
  rw [decimal?, numberFrom?_of_isDigit allDigits, decimal,
    Nat.ofDigitChars_toDigits (by decide) (by decide)]

theorem decimal?_zeros_append (zeros number : Nat) :
    decimal? (List.replicate zeros '0' ++ decimal number) = some number := by
  induction zeros with
  | zero => exact decimal?_decimal number
  | succ zeros inductionHypothesis => exact inductionHypothesis

theorem decimal_concat {front digit : Nat} (positive : 0 < front) (small : digit < 10) :
    decimal front ++ decimal digit = decimal (front * 10 + digit) := by
  rw [Nat.mul_comm]
  exact Nat.toDigits_append_toDigits (by decide) positive small

theorem decimal_of_isDigit {char : Char} (isDigit : char.isDigit = true) :
    decimal (char.toNat - 48) = [char] := by
  have range := isDigit_iff.mp isDigit
  have each : ∀ point < 58, 48 ≤ point → decimal (point - 48) = [Char.ofNat point] := by decide
  have written := each char.toNat (by omega) range.1
  rwa [Char.ofNat_toNat] at written

theorem exists_zeros_append {digits : List Char} {number : Nat} (nonempty : digits ≠ [])
    (read : decimal? digits = some number) :
    ∃ zeros, digits = List.replicate zeros '0' ++ decimal number := by
  induction digits using List.reverseRecOn generalizing number with
  | nil => exact absurd rfl nonempty
  | append_singleton front char inductionHypothesis =>
      rw [decimal?, numberFrom?_append, Option.bind_eq_some_iff] at read
      obtain ⟨frontNumber, readFront, readLast⟩ := read
      rw [numberFrom?, Option.bind_eq_some_iff] at readLast
      obtain ⟨digit, isDigit, whole⟩ := readLast
      have isNumber : frontNumber * 10 + digit = number := Option.some.inj whole
      have small := lt_ten_of_decimalDigit? isDigit
      obtain ⟨isDigitChar, rfl⟩ := isDigit_of_decimalDigit? isDigit
      have last := decimal_of_isDigit isDigitChar
      by_cases noFront : front = []
      · subst front
        cases readFront
        refine ⟨0, ?_⟩
        rw [← isNumber, Nat.zero_mul, Nat.zero_add, last]
        rfl
      · obtain ⟨zeros, isFront⟩ := inductionHypothesis noFront readFront
        rcases Nat.eq_zero_or_pos frontNumber with isZero | positive
        · refine ⟨zeros + 1, ?_⟩
          rw [isFront, ← isNumber, isZero, Nat.zero_mul, Nat.zero_add, last, List.replicate_succ']
          rfl
        · refine ⟨zeros, ?_⟩
          rw [isFront, ← isNumber, ← decimal_concat positive small, last, List.append_assoc]

namespace Numeral

def value (numeral : Numeral) : Nat := (decimal? numeral.digits).getD 0

theorem decimal?_digits (numeral : Numeral) :
    decimal? numeral.digits = some numeral.value := by
  have read : (decimal? numeral.digits).isSome = true := by
    rw [decimal?, isSome_numberFrom?, List.all_eq_true]
    intro char member
    rw [decimalDigit?_of_isDigit (numeral.allDigits char member)]
    rfl
  obtain ⟨number, isNumber⟩ := Option.isSome_iff_exists.mp read
  rw [value, isNumber, Option.getD_some]

theorem value_lt (numeral : Numeral) : numeral.value < 10 ^ numeral.digits.length :=
  lt_pow_of_decimal? numeral.decimal?_digits

theorem decimal?_append (front back : Numeral) :
    decimal? (front.digits ++ back.digits) =
      some (front.value * 10 ^ back.digits.length + back.value) := by
  rw [decimal?, numberFrom?_append, ← decimal?, front.decimal?_digits, Option.bind_some,
    numberFrom?_eq_map, back.decimal?_digits, Option.map_some]

theorem exists_cons (numeral : Numeral) :
    ∃ digit rest, numeral.digits = digit :: rest ∧ digit.isDigit = true := by
  obtain ⟨digit, rest, isCons⟩ := List.exists_cons_of_ne_nil numeral.nonempty
  refine ⟨digit, rest, isCons, numeral.allDigits digit ?_⟩
  rw [isCons]
  exact List.mem_cons_self

theorem exists_concat (numeral : Numeral) :
    ∃ front digit, numeral.digits = front ++ [digit] ∧ digit.isDigit = true := by
  have isConcat := (List.dropLast_concat_getLast numeral.nonempty).symm
  exact ⟨_, _, isConcat, numeral.allDigits _ (List.getLast_mem numeral.nonempty)⟩

end Numeral

end EditionGuard.Text
