import EditionGuard.Report.Print

/-!
# Printing

The lines of a report are written one after the other, and each may fail.  In the end it is as if
the text of the report were written at once: the sink holds all of it or has failed.  What remains
as a problem, if it has not failed, is that there are errors, if there are any.
-/

namespace EditionGuard.Report

theorem Sink.write?_limited (written text : List Char) (room : Nat) :
    (Sink.mk written (some room)).write? text =
      if Text.byteLength text ≤ room then
        some ⟨written ++ text, some (room - Text.byteLength text)⟩
      else none :=
  rfl

theorem Sink.write?_nil (sink : Sink) : sink.write? [] = some sink := by
  obtain ⟨written, room⟩ := sink
  cases room <;> simp [write?]

theorem Sink.write?_append (sink : Sink) (first second : List Char) :
    sink.write? (first ++ second) = (sink.write? first).bind (·.write? second) := by
  obtain ⟨written, room⟩ := sink
  cases room with
  | none => simp [write?]
  | some room =>
      rw [write?_limited, write?_limited, Text.byteLength_append]
      by_cases firstFits : Text.byteLength first ≤ room
      · rw [if_pos firstFits, Option.bind_some, write?_limited]
        by_cases secondFits : Text.byteLength second ≤ room - Text.byteLength first
        · rw [if_pos secondFits, if_pos (by omega), List.append_assoc, Nat.sub_sub]
        · rw [if_neg secondFits, if_neg (by omega)]
      · rw [if_neg firstFits, if_neg (by omega), Option.bind_none]

theorem Sink.exists_write?_of_le {sink last : Sink} {longer shorter : List Char}
    (le : Text.byteLength shorter ≤ Text.byteLength longer)
    (wrote : sink.write? longer = some last) : ∃ other, sink.write? shorter = some other := by
  obtain ⟨written, room⟩ := sink
  cases room with
  | none => exact ⟨_, rfl⟩
  | some room =>
      rw [write?_limited] at wrote ⊢
      by_cases fits : Text.byteLength longer ≤ room
      · rw [if_pos (Nat.le_trans le fits)]
        exact ⟨_, rfl⟩
      · rw [if_neg fits] at wrote
        cases wrote

theorem Sink.writeLines?_eq_write? (sink : Sink) (lines : List (List Char)) :
    sink.writeLines? lines = sink.write? (lines.flatMap (· ++ ['\n'])) := by
  induction lines generalizing sink with
  | nil =>
      rw [List.flatMap_nil, write?_nil]
      rfl
  | cons line rest inductionHypothesis =>
      rw [List.flatMap_cons, write?_append, writeLines?]
      refine congrArg _ (funext fun next => ?_)
      exact inductionHypothesis next

section Reports

variable (errors : List Incompatibility) (edition : Edition) (settings : Settings)

/-- A sink that takes the report whole leaves the errors as the problem, if there are any. -/
theorem print_of_write? {sink last : Sink}
    (wrote : sink.write? (text errors edition settings) = some last) :
    print sink errors edition settings = (some last, verdict errors edition) := by
  have wroteLines : sink.writeLines? (lines errors edition settings) = some last := by
    rw [Sink.writeLines?_eq_write?]
    exact wrote
  rw [print, wroteLines]

/-- A sink that fails goes before the errors. -/
theorem print_of_write?_eq_none {sink : Sink}
    (failed : sink.write? (text errors edition settings) = none) :
    print sink errors edition settings = (none, some (.unwritten "sink full")) := by
  have failedLines : sink.writeLines? (lines errors edition settings) = none := by
    rw [Sink.writeLines?_eq_write?]
    exact failed
  rw [print, failedLines]

theorem print_unlimited :
    print {} errors edition settings =
      (some ⟨text errors edition settings, none⟩, verdict errors edition) :=
  print_of_write? errors edition settings rfl

end Reports

theorem verdict_eq_none_iff {errors : List Incompatibility} {edition : Edition} :
    verdict errors edition = none ↔ errors = [] := by
  cases errors <;> simp [verdict]

end EditionGuard.Report
