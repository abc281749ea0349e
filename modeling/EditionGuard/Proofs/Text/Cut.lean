import Mathlib.Data.List.TakeWhile

/-!
# Cutting texts at a character

What precedes the first occurrence of a character in a text, and what follows it; and likewise for
the first character that is not of a class.
-/

namespace EditionGuard.Text

section Classes

variable {isMember : Char → Bool} {front : List Char} {stop : Char}

theorem takeWhile_append_cons (members : ∀ char ∈ front, isMember char = true)
    (stops : isMember stop = false) (back : List Char) :
    (front ++ stop :: back).takeWhile isMember = front := by
  have notMember : ¬ isMember stop = true := Bool.eq_false_iff.mp stops
  rw [List.takeWhile_append_of_pos members, List.takeWhile_cons_of_neg notMember,
    List.append_nil]

theorem dropWhile_append_cons (members : ∀ char ∈ front, isMember char = true)
    (stops : isMember stop = false) (back : List Char) :
    (front ++ stop :: back).dropWhile isMember = stop :: back := by
  have notMember : ¬ isMember stop = true := Bool.eq_false_iff.mp stops
  rw [List.dropWhile_append_of_pos members, List.dropWhile_cons_of_neg notMember]

variable {back : List Char}

theorem takeWhile_append_stopped (members : ∀ char ∈ front, isMember char = true)
    (stops : ∀ char ∈ back.head?, isMember char = false) :
    (front ++ back).takeWhile isMember = front := by
  cases back with
  | nil => rw [List.append_nil, List.takeWhile_eq_self_iff.mpr members]
  | cons char rest => exact takeWhile_append_cons members (stops char rfl) rest

theorem dropWhile_append_stopped (members : ∀ char ∈ front, isMember char = true)
    (stops : ∀ char ∈ back.head?, isMember char = false) :
    (front ++ back).dropWhile isMember = back := by
  cases back with
  | nil => rw [List.append_nil, List.dropWhile_eq_nil_iff.mpr members]
  | cons char rest => exact dropWhile_append_cons members (stops char rfl) rest

end Classes

variable {separator : Char} {text front : List Char}

theorem forall_ne_iff_not_mem :
    (∀ char ∈ text, (char != separator) = true) ↔ separator ∉ text := by
  constructor
  · intro others member
    have different := others separator member
    rw [bne_self_eq_false] at different
    cases different
  · intro absent char member
    have different : char ≠ separator := by
      rintro rfl
      exact absent member
    simpa using different

theorem not_mem_takeWhile_ne (text : List Char) (separator : Char) :
    separator ∉ text.takeWhile (· != separator) := by
  refine forall_ne_iff_not_mem.mp ?_
  intro char member
  have passes := List.mem_takeWhile_imp member
  exact passes

theorem takeWhile_ne_of_not_mem (absent : separator ∉ text) :
    text.takeWhile (· != separator) = text :=
  List.takeWhile_eq_self_iff.mpr (forall_ne_iff_not_mem.mpr absent)

theorem dropWhile_ne_of_not_mem (absent : separator ∉ text) :
    text.dropWhile (· != separator) = [] :=
  List.dropWhile_eq_nil_iff.mpr (forall_ne_iff_not_mem.mpr absent)

theorem takeWhile_ne_append (absent : separator ∉ front) (back : List Char) :
    (front ++ back).takeWhile (· != separator) = front ++ back.takeWhile (· != separator) :=
  List.takeWhile_append_of_pos (forall_ne_iff_not_mem.mpr absent)

theorem dropWhile_ne_append (absent : separator ∉ front) (back : List Char) :
    (front ++ back).dropWhile (· != separator) = back.dropWhile (· != separator) :=
  List.dropWhile_append_of_pos (forall_ne_iff_not_mem.mpr absent)

theorem eq_append_of_dropWhile_ne {char : Char} {back : List Char}
    (dropped : text.dropWhile (· != separator) = char :: back) :
    text = text.takeWhile (· != separator) ++ separator :: back := by
  have stops := List.head?_dropWhile_not (· != separator) text
  rw [dropped] at stops
  have isSeparator : char = separator := by simpa using stops
  subst isSeparator
  rw [← dropped, List.takeWhile_append_dropWhile]

theorem eq_takeWhile_ne_of_dropWhile_ne (dropped : text.dropWhile (· != separator) = []) :
    text = text.takeWhile (· != separator) := by
  have whole := @List.takeWhile_append_dropWhile _ (· != separator) text
  rw [dropped, List.append_nil] at whole
  exact whole.symm

end EditionGuard.Text
