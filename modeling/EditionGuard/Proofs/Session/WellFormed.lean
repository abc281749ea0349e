import EditionGuard.Proofs.Gate.Wording
import EditionGuard.Proofs.Path.Display
import EditionGuard.Proofs.Session.Place

/-!
# What can be missing from an error

An error always has a message and a line.  It shows no path only if its source is the folder of the
project itself, or has no path at all.  This happens, by a map that can be read.
-/

namespace EditionGuard

namespace Incompatibility

variable {files : FileSystem} {view : View} {output : OutputFile} {failure : Gate.Failure}
  {error : Incompatibility}

theorem message_of_locate
    (located : (locate files view output failure).map Logged.value = .ok error) :
    error.message = failure.message := by
  rcases value_of_locate_eq_ok located with ⟨_, _, _, _, rfl⟩ | ⟨_, rfl⟩
  · rfl
  · rfl

theorem path_of_locate
    (located : (locate files view output failure).map Logged.value = .ok error) :
    error.source.path =
      String.ofList (Path.display error.source.absolutePath.toList view.root) := by
  rcases value_of_locate_eq_ok located with
    ⟨map, source, _, ⟨token, index, name, gives⟩, rfl⟩ | ⟨_, rfl⟩
  · exact gives.path
  · rw [unmapped, OutputFile.location, String.toList_ofList]

theorem path_eq_empty_iff_of_locate
    (located : (locate files view output failure).map Logged.value = .ok error) :
    error.source.path = "" ↔
      error.source.absolutePath = "" ∨
      Path.components error.source.absolutePath.toList = Path.components view.root := by
  rw [path_of_locate located, String.ofList_eq_empty_iff, Path.display_eq_nil_iff,
    String.toList_eq_nil_iff]

theorem one_le_line_of_locate {target : Edition} {goal : Script.Goal}
    (located : (locate files view output failure).map Logged.value = .ok error)
    (failed : Gate.check output.code target goal = some failure) :
    1 ≤ error.source.line := by
  rcases value_of_locate_eq_ok located with
    ⟨map, source, _, ⟨token, index, name, gives⟩, rfl⟩ | ⟨_, rfl⟩
  · change 1 ≤ source.line
    rw [gives.line]
    exact Nat.le_add_left 1 _
  · obtain ⟨read, rejected, _, _, position⟩ := Gate.exists_split_of_check failed
    change 1 ≤ failure.position.line
    rw [position]
    exact Nat.le_add_left 1 _

end Incompatibility

/-- What a session keeps, over any steps and with any files beside the outputs: every error has
a message and a line of one or more, and it has a path unless its source is the folder of the
project or has no path. -/
theorem run_errors_wellFormed (files : FileSystem) (configuration : Configuration)
    (steps : List Step) (history : History)
    (isRun : Session.run files { configuration } steps = .ok history) (error : Incompatibility)
    (retained : error ∈
      history.answers.flatMap Answer.takenErrors ++ history.session.errors) :
    error.message ≠ "" ∧ 1 ≤ error.source.line ∧
    (error.source.path = "" ↔ error.source.absolutePath = "" ∨
      Path.components error.source.absolutePath.toList =
        Path.components configuration.view.root) := by
  rw [(Session.advances_run isRun).errors, List.nil_append] at retained
  obtain ⟨call, isCall, contributed⟩ := List.mem_flatMap.mp retained
  obtain ⟨piece, found, _⟩ := configuration.exists_piece_of_mem_contribution files contributed
  obtain ⟨failure, failed, located, _⟩ := (configuration.mem_found_iff files).mp found
  refine ⟨?_, Incompatibility.one_le_line_of_locate located failed,
    Incompatibility.path_eq_empty_iff_of_locate located⟩
  rw [Incompatibility.message_of_locate located]
  exact Gate.message_ne_empty_of_check failed

theorem run_errors_wellFormed_oneScript :
    letError.message ≠ "" ∧ 1 ≤ letError.source.line ∧ letError.source.path ≠ "" := by
  have shown : (Session.run oneScript
      { configuration := { edition := .es5, view := ⟨['/'], false⟩ } }
      [.task (.check { path := "/let.js".toList })]).toOption.map
        (fun history => history.session.errors) = some [letError] := by
    decide +kernel
  obtain ⟨history, isRun, held⟩ := exists_of_map_toOption_eq_some shown
  have retained : letError ∈
      history.answers.flatMap Answer.takenErrors ++ history.session.errors := by
    rw [held]
    exact List.mem_append_right _ (.head [])
  obtain ⟨message, line, path⟩ :=
    run_errors_wellFormed oneScript { edition := .es5, view := ⟨['/'], false⟩ }
      [.task (.check { path := "/let.js".toList })] history isRun letError retained
  refine ⟨message, line, ?_⟩
  intro noPath
  rcases path.mp noPath with noFile | isRoot
  · exact absurd noFile (by decide)
  · exact absurd isRoot (by decide)

/-- A folder with a script that `es5` cannot read beside a map whose source is an address without
a resource. -/
def strangeMap : FileSystem where
  top := .folder [
    ("a.js".toList, .file (Text.Utf8.encode "let a".toList)),
    ("a.js.map".toList, .file (Text.Utf8.encode
      "\x7b\"sources\":[\"webpack://a/\"],\"names\":[],\"mappings\":\"AAAA\"\x7d".toList))]

/-- The error of this script shows no path. -/
theorem run_errors_not_wellFormed :
    (Session.run strangeMap { configuration := { edition := .es5, view := ⟨['/'], false⟩ } }
        [.task (.check { path := "/a.js".toList })]).toOption.map
      (fun history => history.session.errors.map (·.source.path)) = some [""] := by
  decide +kernel

end EditionGuard
