import EditionGuard.Path
import EditionGuard.Proofs.Text.Split
import Mathlib.Data.List.Basic

/-!
# Names and joined paths

A path is cut at its slashes into names.  A path that does not start at the top, put behind a
folder, adds its names to those of the folder, and keeps its own text as the end of the whole.
So whatever is read off the end of a path, such as the ending of a file name, is the same
before and after.
-/

namespace EditionGuard

namespace Path

theorem names_ne_nil (path : List Char) : names path ≠ [] := by
  rw [names, Text.splitAt_eq_splitOn]
  exact List.splitOn_ne_nil '/' path

theorem names_append_slash (left right : List Char) :
    names (left ++ '/' :: right) = names left ++ names right :=
  Text.splitAt_append_cons left right

theorem names_intercalate {way : List (List Char)} (nonempty : way ≠ [])
    (whole : ∀ name ∈ way, '/' ∉ name) :
    names (List.intercalate ['/'] way) = way :=
  Text.splitAt_intercalate nonempty whole

theorem not_mem_intercalate {char : Char} {way : List (List Char)} (noSlash : char ≠ '/')
    (absent : ∀ name ∈ way, char ∉ name) : char ∉ List.intercalate ['/'] way := by
  induction way with
  | nil => exact List.not_mem_nil
  | cons name rest inductionHypothesis =>
      have inName := absent name List.mem_cons_self
      have inRest := inductionHypothesis fun other member =>
        absent other (List.mem_cons_of_mem name member)
      cases rest with
      | nil =>
          rw [List.intercalate_singleton]
          exact inName
      | cons next others =>
          rw [List.intercalate_cons_cons, List.append_assoc, List.mem_append, List.mem_append,
            List.mem_singleton]
          rintro (member | slash | member)
          · exact inName member
          · exact noSlash slash
          · exact inRest member

theorem isAbsolute_intercalate {way : List (List Char)}
    (whole : ∀ name ∈ way, name ≠ [] ∧ '/' ∉ name) :
    isAbsolute (List.intercalate ['/'] way) = false := by
  have noLeadingSlash (name rest : List Char) (nonempty : name ≠ []) (noSlash : '/' ∉ name) :
      isAbsolute (name ++ rest) = false := by
    cases name with
    | nil => exact absurd rfl nonempty
    | cons first others =>
        have different : first ≠ '/' := by
          rintro rfl
          exact noSlash List.mem_cons_self
        simp [isAbsolute, different]
  cases way with
  | nil => rfl
  | cons name rest =>
      obtain ⟨nonempty, noSlash⟩ := whole name List.mem_cons_self
      cases rest with
      | nil =>
          rw [List.intercalate_singleton]
          simpa using noLeadingSlash name [] nonempty noSlash
      | cons next others =>
          rw [List.intercalate_cons_cons, List.append_assoc]
          exact noLeadingSlash name _ nonempty noSlash

def withoutFinalSlash (path : List Char) : List Char :=
  if path.getLast? = some '/' then path.dropLast else path

theorem eq_withoutFinalSlash_append {path : List Char} (slash : path.getLast? = some '/') :
    path = withoutFinalSlash path ++ ['/'] := by
  rw [withoutFinalSlash, if_pos slash]
  exact (List.dropLast_append_getLast? '/' slash).symm

theorem join_eq_append {base path : List Char} (nonempty : base ≠ [])
    (relative : isAbsolute path = false) :
    join base path = withoutFinalSlash base ++ '/' :: path := by
  rw [join, if_neg (by simp [relative])]
  by_cases slash : base.getLast? = some '/'
  · have cut := eq_withoutFinalSlash_append slash
    rw [slash]
    calc
      base ++ path = withoutFinalSlash base ++ ['/'] ++ path := congrArg (· ++ path) cut
      _ = withoutFinalSlash base ++ '/' :: path := List.append_assoc _ _ _
  · rw [withoutFinalSlash, if_neg slash]
    cases last : base.getLast? with
    | none => exact absurd (List.getLast?_eq_none_iff.mp last) nonempty
    | some char =>
        have different : char ≠ '/' := by
          rintro rfl
          exact slash last
        split
        · next impossible => cases impossible
        · next same => exact absurd (Option.some.inj same) different
        · rfl

theorem not_mem_join {char : Char} {base path : List Char} (noSlash : char ≠ '/')
    (relative : isAbsolute path = false) (inBase : char ∉ base) (inPath : char ∉ path) :
    char ∉ join base path := by
  by_cases empty : base = []
  · subst empty
    simpa [join, relative] using inPath
  · rw [join_eq_append empty relative, List.mem_append, List.mem_cons]
    rintro (member | slash | member)
    · have within : withoutFinalSlash base ⊆ base := by
        rw [withoutFinalSlash]
        split
        · exact List.dropLast_subset base
        · exact List.Subset.refl base
      exact inBase (within member)
    · exact noSlash slash
    · exact inPath member

/-- The path that names a way, put behind the path that the way starts from. -/
def below (base : List Char) (way : List (List Char)) : List Char :=
  join base (List.intercalate ['/'] way)

theorem join_inj {base left right : List Char} (nonempty : base ≠ [])
    (leftRelative : isAbsolute left = false) (rightRelative : isAbsolute right = false) :
    join base left = join base right ↔ left = right := by
  rw [join_eq_append nonempty leftRelative, join_eq_append nonempty rightRelative]
  simp

theorem isAbsolute_join {base path : List Char} (nonempty : base ≠ [])
    (relative : isAbsolute path = false) :
    isAbsolute (join base path) = isAbsolute base := by
  have joined := join_eq_append nonempty relative
  by_cases slash : base.getLast? = some '/'
  · have cut := eq_withoutFinalSlash_append slash
    rw [joined]
    conv => rhs; rw [cut]
    cases withoutFinalSlash base <;> rfl
  · rw [joined, withoutFinalSlash, if_neg slash]
    cases base with
    | nil => exact absurd rfl nonempty
    | cons first rest => rfl

theorem suffix_append_slash_iff {ending left right : List Char} (whole : '/' ∉ ending) :
    ending <:+ left ++ '/' :: right ↔ ending <:+ right := by
  constructor
  · intro suffix
    have ofRight : '/' :: right <:+ left ++ '/' :: right := List.suffix_append _ _
    rcases List.suffix_or_suffix_of_suffix suffix ofRight with within | beyond
    · rcases List.suffix_cons_iff.mp within with same | inRight
      · exact absurd (same ▸ List.mem_cons_self) whole
      · exact inRight
    · exact absurd (beyond.subset List.mem_cons_self) whole
  · intro suffix
    exact suffix.trans ((List.suffix_cons '/' right).trans (List.suffix_append _ _))

theorem suffix_intercalate_iff {ending : List Char} (whole : '/' ∉ ending)
    (way : List (List Char)) (last : List Char) :
    ending <:+ List.intercalate ['/'] (way ++ [last]) ↔ ending <:+ last := by
  induction way with
  | nil => rw [List.nil_append, List.intercalate_singleton]
  | cons name rest inductionHypothesis =>
      have split : List.intercalate ['/'] (name :: rest ++ [last]) =
          name ++ '/' :: List.intercalate ['/'] (rest ++ [last]) := by
        cases rest <;> simp
      rw [split, suffix_append_slash_iff whole, inductionHypothesis]

end Path

end EditionGuard
