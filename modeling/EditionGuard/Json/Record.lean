import EditionGuard.Json.Value
import EditionGuard.Word

/-!
# Taking values apart

What is expected of a value, with nothing for an answer when it is something else. Records
may also be written as lists that hold the fields in order, and one of several words may be
written as a record of that word and `null`.
-/

namespace EditionGuard.Json.Value

def text? : Value → Option (List Char)
  | .text chars => chars
  | _ => none

def string? (value : Value) : Option String := value.text?.map String.ofList

def bool? : Value → Option Bool
  | .bool value => some value
  | _ => none

def natural? (limit : Nat) : Value → Option Nat
  | .number value => value.natural?.filter (· < limit)
  | _ => none

def word? (value : Value) : Option Nat := value.natural? Word.count32

def items? {α : Type} (take? : Value → Option α) : Value → Option (List α)
  | .list items => items.mapM take?
  | _ => none

def nullable? {α : Type} (take? : Value → Option α) : Value → Option (Option α)
  | .null => some none
  | value => (take? value).map some

/-- One of several words. -/
def keyed? {α : Type} (ofKey? : String → Option α) : Value → Option α
  | .text chars => chars.bind fun chars => ofKey? (String.ofList chars)
  | .record [(some key, .null)] => ofKey? (String.ofList key)
  | _ => none

/-- The value of a field that goes by one of several names; nothing if it is given twice. -/
def field? (names : List String) (entries : List (Option (List Char) × Value)) :
    Option (Option Value) :=
  match entries.filter fun entry => names.any fun name => entry.1 == some name.toList with
  | [] => some none
  | [(_, value)] => some (some value)
  | _ => none

/-- The fields of a record in the order of their names; a field that is not given has no
value. All keys must be texts, and none of the fields may be given twice. Fields that are
not asked for do not matter. -/
def fields? (names : List (List String)) : Value → Option (List (Option Value))
  | .record entries =>
    if entries.all fun entry => entry.1.isSome then names.mapM fun name => field? name entries
    else none
  | .list items =>
    if items.length ≤ names.length then
      some (items.map some ++ List.replicate (names.length - items.length) none)
    else none
  | _ => none

/-- The fields of a record of which a list must give all. -/
def allFields? (names : List (List String)) (value : Value) : Option (List (Option Value)) :=
  match value with
  | .list items => if items.length = names.length then value.fields? names else none
  | _ => value.fields? names

def required? {α : Type} (take? : Value → Option α) (field : Option Value) : Option α :=
  field.bind take?

def optional? {α : Type} (take? : Value → Option α) : Option Value → Option (Option α)
  | none => some none
  | some value => value.nullable? take?

def orElse? {α : Type} (missing : α) (take? : Value → Option α) : Option Value → Option α
  | none => some missing
  | some value => take? value

end EditionGuard.Json.Value
