import EditionGuard.Gate.Verdict
import EditionGuard.Proofs.Edition

/-!
# What a message tells

The message about a violation is worded like no grammar error, and its last word is the
edition that would be needed.  So the message alone tells that the gate spoke, and of which
edition.  No message is empty.
-/

namespace EditionGuard.Gate

open EditionGuard.Script

def violationMessage (feature : String) (needed : Edition) : String :=
  s!"Unexpected token: {feature} requires {needed.display}"

theorem Requirement.message_eq (requirement : Requirement) :
    requirement.message = violationMessage requirement.feature.name requirement.edition :=
  rfl

def violationOpening : List Char :=
  ['U', 'n', 'e', 'x', 'p', 'e', 'c', 't', 'e', 'd', ' ', 't', 'o', 'k', 'e', 'n', ':', ' ']

theorem toList_violationMessage (feature : String) (needed : Edition) :
    (violationMessage feature needed).toList =
      violationOpening ++ (feature.toList ++ " requires".toList) ++
        ' ' :: needed.display.toList := by
  have opening : "Unexpected token: ".toList = violationOpening := by decide
  have blank : " requires ".toList = " requires".toList ++ [' '] := by decide
  change ("Unexpected token: " ++ feature ++ " requires " ++ needed.display).toList = _
  rw [String.toList_append, String.toList_append, String.toList_append, opening, blank]
  simp only [List.append_assoc, List.cons_append, List.nil_append]

/-- Of two texts that differ where both go on, neither begins like a continuation of the
other. -/
private theorem not_prefix_append {wanted opening : List Char} (rest : List Char)
    (apart : ¬ wanted <+: opening ∧ ¬ opening <+: wanted) : ¬ wanted <+: opening ++ rest := by
  intro begins
  rcases List.prefix_or_prefix_of_prefix begins (List.prefix_append opening rest) with
    shorter | longer
  · exact apart.1 shorter
  · exact apart.2 longer

private theorem not_prefix_literal {wanted letters : List Char}
    (apart : ¬ wanted <+: letters) : ¬ wanted <+: (String.ofList letters).toList := by
  rwa [String.toList_ofList]

private theorem not_prefix_literal_append {wanted letters : List Char} (rest : List Char)
    (apart : ¬ wanted <+: letters ∧ ¬ letters <+: wanted) :
    ¬ wanted <+: (String.ofList letters).toList ++ rest := by
  rw [String.toList_ofList]
  exact not_prefix_append rest apart

theorem not_violationOpening_prefix (error : GrammarError) :
    ¬ violationOpening <+: error.message.toList := by
  cases error <;> delta GrammarError.message <;> dsimp only [toString] <;>
    first
    | (simp only [String.toList_append, List.append_assoc]
       exact not_prefix_literal_append _ (by decide))
    | exact not_prefix_literal (by decide)

theorem message_ne_violationMessage (error : GrammarError) (feature : String)
    (needed : Edition) : error.message ≠ violationMessage feature needed := by
  intro equal
  apply not_violationOpening_prefix error
  rw [equal, toList_violationMessage, List.append_assoc]
  exact List.prefix_append violationOpening _

private theorem eq_of_append_blank {left right first second : List Char}
    (firstWord : ' ' ∉ first) (secondWord : ' ' ∉ second)
    (equal : left ++ ' ' :: first = right ++ ' ' :: second) : first = second := by
  rcases List.append_eq_append_iff.mp equal with
    ⟨middle, _, rest⟩ | ⟨middle, _, rest⟩
  · cases middle with
    | nil => exact (List.cons.inj rest).2
    | cons head tail =>
        have inFirst : ' ' ∈ first := by
          rw [(List.cons.inj rest).2]
          exact List.mem_append_right tail List.mem_cons_self
        exact (firstWord inFirst).elim
  · cases middle with
    | nil => exact (List.cons.inj rest).2.symm
    | cons head tail =>
        have inSecond : ' ' ∈ second := by
          rw [(List.cons.inj rest).2]
          exact List.mem_append_right tail List.mem_cons_self
        exact (secondWord inSecond).elim

/-- Messages about violations are equal only if they name the same edition. -/
theorem needed_eq_of_violationMessage_eq {feature other : String} {needed second : Edition}
    (equal : violationMessage feature needed = violationMessage other second) :
    needed = second := by
  have letters := congrArg String.toList equal
  rw [toList_violationMessage, toList_violationMessage] at letters
  have words : needed.display.toList = second.display.toList :=
    eq_of_append_blank (Edition.blank_not_mem_display needed)
      (Edition.blank_not_mem_display second) letters
  exact Edition.display_injective (String.toList_inj.mp words)

private theorem append_ne_empty_of_left_ne {opening : String} (rest : String)
    (something : opening ≠ "") : opening ++ rest ≠ "" := by
  intro nothing
  have letters := congrArg String.toList nothing
  rw [String.toList_append] at letters
  exact something (String.toList_eq_nil_iff.mp (List.append_eq_nil_iff.mp letters).1)

private theorem literal_ne_empty {letters : List Char} (something : letters ≠ []) :
    String.ofList letters ≠ "" :=
  mt String.ofList_eq_empty_iff.mp something

theorem message_ne_empty (error : GrammarError) : error.message ≠ "" := by
  cases error <;> delta GrammarError.message <;> dsimp only [toString] <;>
    first
    | exact literal_ne_empty (by decide)
    | (try simp only [String.append_assoc]
       exact append_ne_empty_of_left_ne _ (literal_ne_empty (by decide)))

theorem violationMessage_ne_empty (feature : String) (needed : Edition) :
    violationMessage feature needed ≠ "" := by
  intro nothing
  have letters := congrArg String.toList nothing
  rw [toList_violationMessage] at letters
  cases letters

theorem message_ne_empty_of_check {code : List Char} {target : Edition} {goal : Goal}
    {failure : Failure} (failed : check code target goal = some failure) :
    failure.message ≠ "" := by
  rw [check] at failed
  cases read : Script.read goal code with
  | error diagnostic =>
      rw [read, failureOf] at failed
      cases failed
      exact message_ne_empty diagnostic.error
  | ok tree =>
      rw [read, failureOf] at failed
      obtain ⟨violation, _, shown⟩ := Option.map_eq_some_iff.mp failed
      cases shown
      exact violationMessage_ne_empty violation.feature.name violation.edition

end EditionGuard.Gate
