import EditionGuard.Proofs.Gate.FailurePlace
import EditionGuard.Proofs.Session.Contribution
import EditionGuard.Proofs.SourceMap.Attribution

/-!
# Places of errors

An error that no map has moved shows where its failure stands in the piece of code that was
checked.  For a script the piece is the file.  In a page the piece has text in front of it, and
the place of the failure in the page is another one: the place that is shown, beyond that text.
-/

namespace EditionGuard

open Text (Position)

def SourceLocation.position (source : SourceLocation) : Position := ⟨source.line, source.column⟩

namespace Incompatibility

/-- Whether an error shows where a failure stands in a piece of code: the text from its place on
is what the failure rejects, to the end of the piece. -/
structure StandsAt (error : Incompatibility) (failure : Gate.Failure)
    (piece rejected : List Char) : Prop where
  message : error.message = failure.message
  rejects : Text.dropBytes piece failure.byteOffset = some rejected
  place : error.source.position.textFrom? piece = some rejected

end Incompatibility

/-- An error that no map has moved comes from a call, and shows where its failure stands in the
piece that the call checked.  If the call has read a script, the place is one of the file.  If it
has read a page, the piece is an inline script, and wherever it stands in the page, the failure
stands beyond the text in front of it. -/
theorem run_places (files : FileSystem) (configuration : Configuration) (steps : List Step)
    (history : History) (isRun : Session.run files { configuration } steps = .ok history)
    (error : Incompatibility)
    (retained : error ∈
      history.answers.flatMap Answer.takenErrors ++ history.session.errors)
    (notMapped : error.output = none) :
    ∃ call ∈ steps.flatMap (Step.calls configuration),
      error.source.absolutePath = String.ofList call.path ∧
      ∃ piece failure rejected,
        Gate.check piece configuration.edition (Script.Goal.ofPath call.path) = some failure ∧
        error.StandsAt failure piece rejected ∧
        (call.code = some piece ∨
          call.code = none ∧ ∃ text, files.readText call.path = .ok text ∧
            (FileKind.isScript call.path ∧ piece = text ∨
              FileKind.isPage call.path ∧ piece ∈ Markup.inlineScripts text ∧
                ∀ front back, text = front ++ piece ++ back →
                  (error.source.position.beyond front).textFrom? text =
                    some (rejected ++ back) ∧
                  (error.source.position.beyond front = error.source.position ↔
                    '\n' ∉ front ∧ (error.source.line = 1 → front = [])))) := by
  rw [(Session.advances_run isRun).errors, List.nil_append] at retained
  obtain ⟨call, isCall, contributed⟩ := List.mem_flatMap.mp retained
  obtain ⟨piece, found, origin⟩ :=
    configuration.exists_piece_of_mem_contribution files contributed
  obtain ⟨failure, failed, located, _⟩ := (configuration.mem_found_iff files).mp found
  have shown := Incompatibility.eq_unmapped_of_output_eq_none located notMapped
  obtain ⟨read, rejected, isPiece, rejects, isPosition⟩ := Gate.exists_split_of_check failed
  have position : error.source.position = .behind read := by
    rw [← isPosition, shown]
    rfl
  refine ⟨call, isCall, by rw [shown]; rfl, piece, failure, rejected, failed,
    ⟨by rw [shown]; rfl, rejects, ?_⟩, ?_⟩
  · rw [position, isPiece, Position.textFrom?_behind]
  rcases origin with given | ⟨notGiven, checked, text, readText, listed⟩
  · exact Or.inl given
  refine Or.inr ⟨notGiven, text, readText, ?_⟩
  -- A page is cut into its inline scripts; a script is one piece.
  rw [Configuration.pieces] at listed
  by_cases page : FileKind.isPage call.path
  · refine Or.inr ⟨page, ?_, ?_⟩
    · rw [if_pos page] at listed
      by_cases excluded : configuration.exclude.excludes call.path
      · rw [if_pos excluded] at listed
        cases listed
      · rwa [if_neg excluded] at listed
    · intro front back isText
      refine ⟨?_, Position.beyond_eq_self_iff⟩
      have behindFront : text = front ++ read ++ (rejected ++ back) := by
        rw [isText, isPiece]
        simp only [List.append_assoc]
      rw [position, ← Position.behind_append, behindFront, Position.textFrom?_behind]
  · refine Or.inl ⟨?_, ?_⟩
    · rw [FileKind.isChecked, Bool.or_eq_true] at checked
      exact checked.resolve_left page
    · rw [if_neg page] at listed
      exact List.mem_singleton.mp listed

def letError : Incompatibility where
  message := "Unexpected token: `let` declaration requires es2015"
  source := ⟨"let.js", 1, 0, "/let.js", "let a\n          ^"⟩

theorem run_places_oneScript :
    ∃ piece failure rejected,
      Gate.check piece .es5 (Script.Goal.ofPath "/let.js".toList) = some failure ∧
      letError.StandsAt failure piece rejected ∧
      oneScript.readText "/let.js".toList = .ok piece := by
  have shown : (Session.run oneScript
      { configuration := { edition := .es5, view := ⟨['/'], false⟩ } }
      [.task (.check { path := "/let.js".toList })]).toOption.map
        (fun history => (history.answers.map Answer.takenErrors, history.session.errors)) =
          some ([[]], [letError]) := by
    decide +kernel
  obtain ⟨history, isRun, held⟩ := exists_of_map_toOption_eq_some shown
  obtain ⟨taken, errors⟩ := Prod.mk.inj held
  have retained : letError ∈
      history.answers.flatMap Answer.takenErrors ++ history.session.errors := by
    rw [errors]
    exact List.mem_append_right _ (.head [])
  obtain ⟨call, isCall, _, piece, failure, rejected, failed, stands, origin⟩ :=
    run_places oneScript { edition := .es5, view := ⟨['/'], false⟩ }
      [.task (.check { path := "/let.js".toList })] history isRun letError retained rfl
  obtain rfl := List.mem_singleton.mp isCall
  refine ⟨piece, failure, rejected, failed, stands, ?_⟩
  rcases origin with given | ⟨_, text, readText, ⟨_, rfl⟩ | ⟨page, _⟩⟩
  · cases given
  · exact readText
  · exact absurd page (by decide)

def scriptOnSecondLine : List Char := "<p>\n<script>let a</script>".toList

def secondLinePage : FileSystem where
  top := .folder [("p.html".toList, .file (Text.Utf8.encode scriptOnSecondLine))]

/-- The error of the page shows where the page begins, and not where its script does. -/
theorem run_places_outside_script :
    ∃ history error, Session.run secondLinePage { configuration := { edition := .es5 } }
        [.task (.check { path := "/p.html".toList })] = .ok history ∧
      error ∈ history.session.errors ∧
      error.output = none ∧ error.source.absolutePath = "/p.html" ∧
      secondLinePage.readText "/p.html".toList = .ok scriptOnSecondLine ∧
      error.source.position.textFrom? scriptOnSecondLine = some scriptOnSecondLine ∧
      ∀ piece ∈ Markup.inlineScripts scriptOnSecondLine, ∀ failure rejected,
        Gate.check piece .es5 (Script.Goal.ofPath "/p.html".toList) = some failure →
        Text.dropBytes piece failure.byteOffset = some rejected →
        ¬ rejected <+: scriptOnSecondLine := by
  let error : Incompatibility := ⟨"Unexpected token: `let` declaration requires es2015",
    ⟨"/p.html", 1, 0, "/p.html", "let a\n          ^"⟩, none⟩
  have shown : (Session.run secondLinePage { configuration := { edition := .es5 } }
      [.task (.check { path := "/p.html".toList })]).toOption.map
        (fun history => history.session.errors) = some [error] := by
    decide +kernel
  obtain ⟨history, isRun, held⟩ := exists_of_map_toOption_eq_some shown
  refine ⟨history, error, isRun, ?_, rfl, rfl, by decide +kernel, by decide +kernel, ?_⟩
  · rw [held]
    exact .head []
  have pieces : Markup.inlineScripts scriptOnSecondLine = ["let a".toList] := by
    decide +kernel
  rw [pieces]
  intro piece listed failure rejected failed rejects
  obtain rfl := List.mem_singleton.mp listed
  have failure : Gate.check "let a".toList .es5 (Script.Goal.ofPath "/p.html".toList) =
      some ⟨"Unexpected token: `let` declaration requires es2015", 0, ⟨1, 0⟩⟩ := by
    decide +kernel
  rw [failure] at failed
  cases failed
  cases rejects
  decide +kernel

end EditionGuard
