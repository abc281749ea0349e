import EditionGuard.Proofs.Session.Contribution

/-!
# Files and their pieces

Checking a file comes to the same as checking its pieces one after the other, with the code of
each given in the stead of the file.  A script is a single piece, and the pieces of a page are its
inline scripts.  Only the number of files tells the difference: no file is counted for code that
is given.
-/

namespace EditionGuard

namespace Session

/-- Checks of pieces of code in the stead of the file at a path, one after the other. -/
def inlineChecks (path : List Char) (pieces : List (List Char)) : List Step :=
  pieces.map fun piece => .task (.check ⟨path, some piece⟩)

theorem calls_inlineChecks (configuration : Configuration) (path : List Char)
    (pieces : List (List Char)) :
    (inlineChecks path pieces).flatMap (Step.calls configuration) =
      pieces.map fun piece => ⟨path, some piece⟩ := by
  induction pieces with
  | nil => rfl
  | cons piece rest inductionHypothesis =>
      rw [List.map_cons, ← inductionHypothesis]
      rfl

/-- Pieces of code are checked to the end if and only if none of them stops the session. -/
theorem exists_run_inlineChecks_iff {files : FileSystem} {session : Session} {path : List Char}
    {pieces : List (List Char)} :
    (∃ history, session.run files (inlineChecks path pieces) = .ok history) ↔
      ∀ piece ∈ pieces, ¬ session.configuration.Stops files ⟨path, some piece⟩ := by
  rw [exists_run_eq_ok_iff, calls_inlineChecks, List.forall_mem_map]

theorem advances_inlineChecks {files : FileSystem} {session : Session} {path : List Char}
    {pieces : List (List Char)} {history : History}
    (isRun : session.run files (inlineChecks path pieces) = .ok history) :
    Advances files (pieces.map fun piece => ⟨path, some piece⟩) [] session history.session := by
  have asTasks : inlineChecks path pieces =
      (pieces.map fun piece => Task.check ⟨path, some piece⟩).map .task := by
    rw [List.map_map]
    rfl
  have noneTaken : history.answers.flatMap Answer.takenErrors = [] := by
    rw [asTasks] at isRun
    exact takenErrors_of_run_tasks isRun
  have advances := advances_run isRun
  rwa [noneTaken, calls_inlineChecks] at advances

/-- Whether checking the file at a path leaves what inline checks of some pieces leave, apart
from the number of files, which grows by one. -/
structure RefinesInline (files : FileSystem) (session : Session) (path : List Char)
    (pieces : List (List Char)) : Prop where
  goesOn : (∃ checked, session.check files path none = .ok checked) ↔
    ∃ history, session.run files (inlineChecks path pieces) = .ok history
  agrees : ∀ next problem history, session.check files path none = .ok (next, problem) →
    session.run files (inlineChecks path pieces) = .ok history →
      problem = none ∧ next.errors = history.session.errors ∧
        next.filesChecked = session.filesChecked + 1 ∧
        history.session.filesChecked = session.filesChecked

theorem exists_check_iff {files : FileSystem} {session : Session} {path : List Char} :
    (∃ checked, session.check files path none = .ok checked) ↔
      ¬ session.configuration.Stops files { path } := by
  constructor
  · rintro ⟨⟨next, problem⟩, checked⟩
    have advances : Advances files [{ path }] [] session next := advances_check checked
    exact advances.goesOn _ (.head [])
  · intro goesOn
    cases checked : session.check files path none with
    | ok result => exact ⟨result, rfl⟩
    | error stop => exact absurd (@stops_of_check files session { path } stop checked) goesOn

theorem refinesInline_pieces {files : FileSystem} {session : Session} {path text : List Char}
    (checked : FileKind.isChecked path) (read : files.readText path = .ok text) :
    session.RefinesInline files path (session.configuration.pieces path text) := by
  have looks : Call.LooksAtFile { path } := ⟨rfl, FileKind.isChecked_iff.mp checked⟩
  constructor
  · rw [exists_check_iff, exists_run_inlineChecks_iff,
      session.configuration.stops_iff_of_isChecked files checked read]
    simp only [not_exists, not_and]
  · intro next problem history isNext isRun
    have inlineAdvances := advances_inlineChecks isRun
    have advances : Advances files [{ path }] [] session next := advances_check isNext
    refine ⟨?_, ?_, ?_, ?_⟩
    · obtain ⟨outcome, isOutcome, made⟩ := exists_of_bind_eq_ok isNext
      have result := session.configuration.result_checkFile files checked read
      rw [Configuration.check] at isOutcome
      rw [isOutcome, Except.map] at result
      obtain ⟨errors, _, isResult⟩ := exists_of_map_eq_ok result.symm
      cases made
      rw [CheckOutcome.problem?, ← isResult]
    · have errors := advances.errors
      rw [List.flatMap_singleton, session.configuration.contribution_of_isChecked files checked
        read (advances.goesOn _ (.head []))] at errors
      have inlineErrors := inlineAdvances.errors
      simp only [List.flatMap_map, Configuration.contribution_of_given] at inlineErrors
      exact errors.trans inlineErrors.symm
    · rw [advances.filesChecked, List.countP_singleton, decide_eq_true looks]
      rfl
    · rw [inlineAdvances.filesChecked, List.countP_eq_zero.mpr]
      · rfl
      · intro call member
        obtain ⟨piece, _, rfl⟩ := List.mem_map.mp member
        simp [Call.LooksAtFile]

end Session

/-- Checking a file that can be read comes to the same as checking its pieces inline, in any
session: for a script the piece is its text; for a page that the source exclusion does not match
the pieces are its inline scripts in order. -/
theorem check_refinesInline (files : FileSystem) (session : Session) (path text : List Char)
    (read : files.readText path = .ok text) :
    ((∃ ending ∈ [".js", ".mjs", ".cjs", ".jsx"], ending.toList <:+ path) →
      session.RefinesInline files path [text]) ∧
    (".html".toList <:+ path → session.configuration.exclude.excludes path = false →
      session.RefinesInline files path (Markup.inlineScripts text)) := by
  constructor
  · intro endsLikeScript
    have script : FileKind.isScript path := FileKind.isScript_iff.mpr endsLikeScript
    rw [← session.configuration.pieces_of_isScript script text]
    exact Session.refinesInline_pieces (FileKind.isChecked_of_isScript script) read
  · intro endsLikePage notExcluded
    have page : FileKind.isPage path := FileKind.isPage_iff.mpr endsLikePage
    rw [← session.configuration.pieces_of_isPage page notExcluded text]
    exact Session.refinesInline_pieces (FileKind.isChecked_of_isPage page) read

def twoScripts : List Char := "<script>let b</script><p><script>let c</script>".toList

def scriptAndPage : FileSystem where
  top := .folder [("a.js".toList, .file (Text.Utf8.encode "let a".toList)),
    ("p.html".toList, .file (Text.Utf8.encode twoScripts))]

theorem check_refinesInline_scriptAndPage :
    Session.RefinesInline scriptAndPage { configuration := { edition := .es5 } }
      "/a.js".toList ["let a".toList] ∧
    Session.RefinesInline scriptAndPage { configuration := { edition := .es5 } }
      "/p.html".toList ["let b".toList, "let c".toList] ∧
    ∃ checked, Session.check { configuration := { edition := .es5 } } scriptAndPage
      "/p.html".toList none = .ok checked := by
  have readScript : scriptAndPage.readText "/a.js".toList = .ok "let a".toList := rfl
  have readPage : scriptAndPage.readText "/p.html".toList = .ok twoScripts := by
    decide +kernel
  have pieces : Markup.inlineScripts twoScripts = ["let b".toList, "let c".toList] := by
    decide +kernel
  have shown : (Session.check { configuration := { edition := .es5 } } scriptAndPage
      "/p.html".toList none).toOption.map (fun checked => checked.1.errors.length) = some 2 := by
    decide +kernel
  obtain ⟨checked, isChecked, _⟩ := exists_of_map_toOption_eq_some shown
  refine ⟨(check_refinesInline _ _ _ _ readScript).1 (by decide), ?_, checked, isChecked⟩
  rw [← pieces]
  exact (check_refinesInline _ _ _ _ readPage).2 (by decide) rfl

end EditionGuard
