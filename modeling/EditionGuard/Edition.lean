import EditionGuard.Text.Blank
import EditionGuard.Text.Digit

/-!
# Editions of the language

The editions in the order of their publication, the spellings by which users name them, and
the text by which they are shown.
-/

namespace EditionGuard

/-- An edition of the grammar. `latest` stands for everything that is known. -/
inductive Edition where
  | es5
  | es2015
  | es2016
  | es2017
  | es2018
  | es2019
  | es2020
  | es2021
  | es2022
  | es2023
  | es2024
  | es2025
  | latest
deriving DecidableEq, Repr, Inhabited

namespace Edition

/-- All editions, oldest first. -/
def all : List Edition :=
  [.es5, .es2015, .es2016, .es2017, .es2018, .es2019, .es2020, .es2021, .es2022, .es2023,
    .es2024, .es2025, .latest]

def rank : Edition → Nat
  | .es5 => 0
  | .es2015 => 1
  | .es2016 => 2
  | .es2017 => 3
  | .es2018 => 4
  | .es2019 => 5
  | .es2020 => 6
  | .es2021 => 7
  | .es2022 => 8
  | .es2023 => 9
  | .es2024 => 10
  | .es2025 => 11
  | .latest => 12

instance : LE Edition := ⟨fun left right => left.rank ≤ right.rank⟩

instance : LT Edition := ⟨fun left right => left.rank < right.rank⟩

instance (left right : Edition) : Decidable (left ≤ right) :=
  inferInstanceAs (Decidable (left.rank ≤ right.rank))

instance (left right : Edition) : Decidable (left < right) :=
  inferInstanceAs (Decidable (left.rank < right.rank))

theorem le_iff_rank_le {left right : Edition} : left ≤ right ↔ left.rank ≤ right.rank :=
  Iff.rfl

theorem rank_injective {left right : Edition} (equal : left.rank = right.rank) :
    left = right := by
  cases left <;> cases right <;> first | rfl | cases equal

def older (left right : Edition) : Edition := if left ≤ right then left else right

def year? : Edition → Option Nat
  | .es5 | .latest => none
  | edition => some (2014 + edition.rank)

def ofYear? (year : Nat) : Option Edition :=
  all.find? fun edition => edition.year? == some year

def previous? (edition : Edition) : Option Edition :=
  all.find? fun earlier => earlier.rank + 1 == edition.rank

def display (edition : Edition) : String :=
  match edition.year? with
  | some year => s!"es{year}"
  | none => if edition = .es5 then "es5" else "latest"

/-- The value of a run of decimal digits; nothing if it is empty or holds anything else. -/
def digitsValue? : List Char → Option Nat
  | [] => none
  | digits =>
    Text.decimal? digits

/-- The edition of a number: a serial number up to 16, or a year. -/
def ofNumber? (number : Nat) : Option Edition :=
  if number = 5 then some .es5
  else if 6 ≤ number ∧ number ≤ 16 then ofYear? (number + 2009)
  else ofYear? number

/-- The edition that a text names: `latest`, `esnext`, or a number that may follow `es` and
a plus sign. White space around the text and the case of letters do not matter. -/
def ofText? (text : String) : Option Edition :=
  let name := Text.lowerAscii (Text.trim text.toList)
  if name = "latest".toList ∨ name = "esnext".toList then some .latest
  else
    let number := match name with
      | 'e' :: 's' :: rest => rest
      | rest => rest
    let digits := match number with
      | '+' :: rest => rest
      | rest => rest
    (digitsValue? digits).bind ofNumber?

end Edition

end EditionGuard
