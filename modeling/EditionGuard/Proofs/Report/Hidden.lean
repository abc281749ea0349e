import EditionGuard.Proofs.Report.Print
import Mathlib.Data.List.Forall2

/-!
# Hidden fields

What a report leaves out cannot be told from it: errors that differ in hidden fields only are printed
alike and with the same result.  Of the list of hidden fields only its members matter, and none of
them decides whether the check has passed.
-/

namespace EditionGuard.Report

/-- Whether two errors agree on what a field shows.  No field shows the absolute path. -/
def Field.Agrees (first second : Incompatibility) : Field → Prop
  | .source => first.source.path = second.source.path ∧
      first.source.line = second.source.line ∧ first.source.column = second.source.column
  | .output => first.output = second.output
  | .reason => first.message = second.message
  | .code => first.source.code = second.source.code

/-- Whether two errors differ in hidden fields at most. -/
def AgreesOutside (hidden : List Field) (first second : Incompatibility) : Prop :=
  ∀ field, field ∉ hidden → field.Agrees first second

theorem Field.content_eq {field : Field} {first second : Incompatibility}
    (agrees : field.Agrees first second) : field.content first = field.content second := by
  cases field with
  | source =>
      obtain ⟨path, line, column⟩ := agrees
      simp only [content, SourceLocation.location, path, line, column]
  | output =>
      have sameOutput : first.output = second.output := agrees
      simp only [content, sameOutput]
  | reason =>
      have sameMessage : first.message = second.message := agrees
      simp only [content, sameMessage]
  | code =>
      have sameCode : first.source.code = second.source.code := agrees
      simp only [content, sameCode]

section Blocks

variable {settings : Settings} {hidden : List Field} {first second : Incompatibility}

/-- The same fields of both errors are shown, with the same content. -/
theorem blockLines_eq (sameFields : ∀ field, field ∈ hidden ↔ field ∈ settings.excludeFields)
    (agree : AgreesOutside settings.excludeFields first second) :
    blockLines { settings with excludeFields := hidden } second = blockLines settings first := by
  have sameContent : ∀ field, field ∉ settings.excludeFields →
      field.content second = field.content first := by
    intro field shown
    exact (Field.content_eq (agree field shown)).symm
  have sameShown : ∀ field,
      (!hidden.contains field && !(field.content second).isEmpty) =
        (!settings.excludeFields.contains field && !(field.content first).isEmpty) := by
    intro field
    by_cases isHidden : field ∈ settings.excludeFields
    · have isHiddenToo : field ∈ hidden := (sameFields field).mpr isHidden
      simp [isHidden, isHiddenToo]
    · have isShownToo : field ∉ hidden := mt (sameFields field).mp isHidden
      simp [isHidden, isShownToo, sameContent field isHidden]
  have sameFilter := List.filter_congr (l := Field.all) fun field _ => sameShown field
  simp only [blockLines, sameFilter]
  congr 1
  apply List.map_congr_left
  intro field kept
  have isShown : field ∉ settings.excludeFields := by
    have conditions := (List.mem_filter.mp kept).2
    simp only [Bool.and_eq_true, Bool.not_eq_true', List.contains_eq_mem,
      decide_eq_false_iff_not] at conditions
    exact conditions.1
  rw [sameContent field isShown]

variable {errors others : List Incompatibility}

theorem flatMap_blocks_eq
    (sameFields : ∀ field, field ∈ hidden ↔ field ∈ settings.excludeFields)
    (agree : List.Forall₂ (AgreesOutside settings.excludeFields) errors others) (start : Nat) :
    ((others.zipIdx start).flatMap fun (error, index) =>
        title { settings with excludeFields := hidden } (index + 1) ::
          blockLines { settings with excludeFields := hidden } error) =
      (errors.zipIdx start).flatMap fun (error, index) =>
        title settings (index + 1) :: blockLines settings error := by
  induction agree generalizing start with
  | nil => rfl
  | cons firstAgree _ inductionHypothesis =>
      have sameTitle : title { settings with excludeFields := hidden } (start + 1) =
          title settings (start + 1) := rfl
      simp only [List.zipIdx_cons, List.flatMap_cons, inductionHypothesis,
        blockLines_eq sameFields firstAgree, sameTitle]

theorem lines_eq (sameFields : ∀ field, field ∈ hidden ↔ field ∈ settings.excludeFields)
    (agree : List.Forall₂ (AgreesOutside settings.excludeFields) errors others)
    (edition : Edition) :
    lines others edition { settings with excludeFields := hidden } =
      lines errors edition settings := by
  have sameBlocks := flatMap_blocks_eq sameFields agree 0
  cases agree with
  | nil => rfl
  | cons firstAgree restAgree =>
      simp only [lines, sameBlocks]
      rfl

theorem verdict_eq (sameLength : errors.length = others.length) (edition : Edition) :
    verdict others edition = verdict errors edition := by
  cases errors with
  | nil =>
      have noOthers : others = [] := List.length_eq_zero_iff.mp sameLength.symm
      rw [noOthers]
  | cons first rest =>
      have someOthers : others ≠ [] := by
        rintro rfl
        simp at sameLength
      simp [verdict, someOthers, sameLength]

end Blocks

/-- Errors that agree on every field that is shown are printed alike to any sink, with the same
problem in the end, however the hidden fields are listed.  What is hidden decides nothing about this
problem: in a sink without a limit any errors of the same number leave the same one, whatever fields
are hidden. -/
theorem print_hides (settings : Settings) (hidden : List Field)
    (sameFields : ∀ field, field ∈ hidden ↔ field ∈ settings.excludeFields)
    (errors others : List Incompatibility)
    (agree : List.Forall₂ (AgreesOutside settings.excludeFields) errors others)
    (edition : Edition) :
    text others edition { settings with excludeFields := hidden } =
      text errors edition settings ∧
    (∀ sink, print sink others edition { settings with excludeFields := hidden } =
      print sink errors edition settings) ∧
    ∀ anyErrors : List Incompatibility, anyErrors.length = errors.length → ∀ anyHidden,
      (print {} anyErrors edition { settings with excludeFields := anyHidden }).2 =
        (print {} errors edition settings).2 := by
  have sameLines := lines_eq sameFields agree edition
  refine ⟨?_, ?_, ?_⟩
  · rw [text, text, sameLines]
  · intro sink
    have sameVerdict := verdict_eq agree.length_eq edition
    rw [print, print, sameLines, sameVerdict]
  · intro anyErrors sameLength anyHidden
    rw [print_unlimited, print_unlimited]
    exact verdict_eq sameLength.symm edition

/-- An error of a fixed place, found in some folder, with a message and code. -/
def errorAtOne (folder message code : String) : Incompatibility :=
  ⟨message, ⟨"a.js", 1, 0, folder ++ "/a.js", code⟩, none⟩

theorem print_hides_reasonAndCode :
    text [errorAtOne "/home" "no let" "let a\n ^"] .es5 { excludeFields := [.code, .reason] } =
      text [errorAtOne "/tmp" "no const" ""] .es5 { excludeFields := [.reason, .code, .reason] } ∧
    (print {} [errorAtOne "/tmp" "no const" ""] .es5 {}).2 = some (.incompatible .es5 1) := by
  have sameFields : ∀ field, field ∈ [Field.code, .reason] ↔
      field ∈ [Field.reason, .code, .reason] := by
    intro field
    cases field <;> decide
  have agree : AgreesOutside [.reason, .code, .reason]
      (errorAtOne "/tmp" "no const" "") (errorAtOne "/home" "no let" "let a\n ^") := by
    intro field shown
    cases field with
    | source => exact ⟨rfl, rfl, rfl⟩
    | output => rfl
    | reason => simp at shown
    | code => simp at shown
  obtain ⟨sameText, -, sameProblem⟩ :=
    print_hides { excludeFields := [.reason, .code, .reason] } [.code, .reason] sameFields
      _ _ (.cons agree .nil) .es5
  refine ⟨sameText, ?_⟩
  have unhidden := sameProblem [errorAtOne "/tmp" "no const" ""] rfl []
  rw [unhidden, print_unlimited]
  rfl

end EditionGuard.Report
