import EditionGuard.Proofs.Session.Exclusions

/-!
# What a call contributes

Each error that a call contributes was located for the failure of one piece of code: the code
that the call gives, the text of a script that it reads, or an inline script of a page that it
reads.
-/

namespace EditionGuard

namespace FileKind

theorem getLast?_of_endsIn {endings : List String} {path : List Char}
    (nonempty : ∀ ending ∈ endings, ending.toList ≠ []) (ends : endsIn endings path) :
    ∃ ending ∈ endings, path.getLast? = ending.toList.getLast? := by
  rw [endsIn, List.any_eq_true] at ends
  obtain ⟨ending, listed, isSuffix⟩ := ends
  obtain ⟨front, rfl⟩ := List.isSuffixOf_iff_suffix.mp isSuffix
  exact ⟨ending, listed, List.getLast?_append_of_ne_nil front (nonempty ending listed)⟩

theorem isScript_iff {path : List Char} :
    isScript path ↔
      ∃ ending ∈ [".js", ".mjs", ".cjs", ".jsx"], ending.toList <:+ path := by
  simp [isScript, endsIn, List.isSuffixOf_iff_suffix]

theorem isPage_iff {path : List Char} : isPage path ↔ ".html".toList <:+ path := by
  simp [isPage, endsIn, List.isSuffixOf_iff_suffix]

theorem isChecked_of_isScript {path : List Char} (script : isScript path) :
    isChecked path := by
  rw [isChecked, script, Bool.or_true]

theorem isChecked_of_isPage {path : List Char} (page : isPage path) : isChecked path := by
  rw [isChecked, page, Bool.true_or]

theorem isPage_eq_false_of_isScript {path : List Char} (script : isScript path) :
    isPage path = false := by
  rw [Bool.eq_false_iff]
  intro page
  obtain ⟨pageEnding, pageListed, pageLast⟩ := getLast?_of_endsIn (by decide) page
  obtain ⟨ending, listed, last⟩ := getLast?_of_endsIn (by decide) script
  rw [pageLast] at last
  simp only [List.mem_cons, List.not_mem_nil, or_false] at pageListed listed
  subst pageListed
  rcases listed with rfl | rfl | rfl | rfl <;> exact absurd last (by decide)

end FileKind

namespace Configuration

variable (configuration : Configuration) (files : FileSystem)

/-- What is found in a piece of code of the file at a path; nothing if the search stops. -/
def found (path code : List Char) : List Incompatibility :=
  match (configuration.findings files path code).map Logged.value with
  | .ok errors => errors
  | .error _ => []

theorem mem_found_iff {path code : List Char} {error : Incompatibility} :
    error ∈ configuration.found files path code ↔
      ∃ failure,
        Gate.check code configuration.edition (Script.Goal.ofPath path) = some failure ∧
        (Incompatibility.locate files configuration.view ⟨path, code⟩ failure).map
          Logged.value = .ok error ∧
        configuration.keeps error := by
  cases checked : Gate.check code configuration.edition (Script.Goal.ofPath path) with
  | none => simp [found, findings_of_passed configuration files checked, Except.map]
  | some failure =>
      simp only [found, findings_of_failure configuration files checked, Option.some.injEq,
        exists_eq_left']
      cases Incompatibility.locate files configuration.view ⟨path, code⟩ failure with
      | error stop => simp [Except.map]
      | ok located =>
          simp only [Except.map, Except.ok.injEq, List.mem_filter, List.mem_singleton]
          exact and_congr_left fun _ => eq_comm

/-- If several pieces of code are searched to the end, what is found is what each of them
brings. -/
theorem allFindings_value {path : List Char} {pieces : List (List Char)}
    {errors : List Incompatibility}
    (searched : (configuration.allFindings files path pieces).map Logged.value = .ok errors) :
    errors = pieces.flatMap (configuration.found files path) := by
  induction pieces generalizing errors with
  | nil =>
      cases searched
      rfl
  | cons piece rest inductionHypothesis =>
      rw [allFindings_cons] at searched
      obtain ⟨first, isFirst, restSearched⟩ := exists_of_bind_eq_ok searched
      obtain ⟨others, areOthers, rfl⟩ := exists_of_map_eq_ok restSearched
      rw [List.flatMap_cons, ← inductionHypothesis areOthers, found, isFirst]

theorem not_stops_of_mem_contribution {call : Call} {error : Incompatibility}
    (member : error ∈ configuration.contribution files call) :
    ¬ configuration.Stops files call := by
  rintro ⟨stop, stopped⟩
  rw [contribution, stopped] at member
  cases member

theorem contribution_of_given (path code : List Char) :
    configuration.contribution files ⟨path, some code⟩ = configuration.found files path code := by
  simp only [contribution, found, check, checkCode]
  cases configuration.findings files path code <;> rfl

theorem stops_given_iff {path code : List Char} :
    configuration.Stops files ⟨path, some code⟩ ↔
      ∃ stop, configuration.findings files path code = .error stop := by
  refine exists_congr fun stop => ?_
  rw [check, ← map_eq_error_iff, result_checkCode, map_eq_error_iff, map_eq_error_iff]

theorem stops_given_iff_of_failure {path code : List Char} {failure : Gate.Failure}
    (failed : Gate.check code configuration.edition (Script.Goal.ofPath path) = some failure) :
    configuration.Stops files ⟨path, some code⟩ ↔
      ∃ stop, Incompatibility.locate files configuration.view ⟨path, code⟩ failure =
        .error stop := by
  rw [stops_given_iff]
  refine exists_congr fun stop => ?_
  rw [← map_eq_error_iff, configuration.findings_of_failure files failed, map_eq_error_iff]

theorem stops_iff_of_isChecked {path text : List Char} (checked : FileKind.isChecked path)
    (read : files.readText path = .ok text) :
    configuration.Stops files { path } ↔
      ∃ piece ∈ configuration.pieces path text,
        configuration.Stops files ⟨path, some piece⟩ := by
  simp only [stops_given_iff, ← exists_mapM_eq_error_iff]
  refine exists_congr fun stop => ?_
  rw [check, ← map_eq_error_iff, configuration.result_checkFile files checked read,
    map_eq_error_iff, map_eq_error_iff, allFindings]
  cases (configuration.pieces path text).mapM (configuration.findings files path) with
  | error other => simp only [error_bind]
  | ok found =>
      constructor
      · intro stopped
        cases stopped
      · intro stopped
        cases stopped

theorem contribution_of_isChecked {path text : List Char} (checked : FileKind.isChecked path)
    (read : files.readText path = .ok text) (goesOn : ¬ configuration.Stops files { path }) :
    configuration.contribution files { path } =
      (configuration.pieces path text).flatMap (configuration.found files path) := by
  have result := configuration.result_checkFile files checked read
  cases isOutcome : configuration.check files path none with
  | error stop => exact absurd ⟨stop, isOutcome⟩ goesOn
  | ok outcome =>
      rw [check] at isOutcome
      rw [isOutcome, Except.map] at result
      obtain ⟨errors, searched, isResult⟩ := exists_of_map_eq_ok result.symm
      rw [@contribution_of_check configuration files { path } outcome isOutcome, ← isResult,
        ← allFindings_value configuration files searched]
      rfl

theorem pieces_of_isScript {path : List Char} (script : FileKind.isScript path)
    (text : List Char) : configuration.pieces path text = [text] := by
  rw [pieces, FileKind.isPage_eq_false_of_isScript script]
  rfl

theorem pieces_of_isPage {path : List Char} (page : FileKind.isPage path)
    (notExcluded : configuration.exclude.excludes path = false) (text : List Char) :
    configuration.pieces path text = Markup.inlineScripts text := by
  rw [pieces, if_pos page, notExcluded]
  rfl

theorem contribution_of_isScript {path text : List Char} (script : FileKind.isScript path)
    (read : files.readText path = .ok text) (goesOn : ¬ configuration.Stops files { path }) :
    configuration.contribution files { path } = configuration.found files path text := by
  rw [contribution_of_isChecked configuration files (FileKind.isChecked_of_isScript script) read
    goesOn, configuration.pieces_of_isScript script, List.flatMap_singleton]

theorem contribution_of_not_isChecked {path : List Char}
    (notChecked : ¬ FileKind.isChecked path) :
    configuration.contribution files { path } = [] := by
  rw [contribution, check, checkFile_of_not_isChecked configuration files notChecked]
  rfl

theorem contribution_of_unreadable {path : List Char} {fault : ReadFault}
    (unreadable : files.readText path = .error fault) :
    configuration.contribution files { path } = [] := by
  by_cases checked : FileKind.isChecked path
  · rw [contribution, check, checkFile_of_unreadable configuration files checked unreadable]
    rfl
  · exact configuration.contribution_of_not_isChecked files checked

/-- A contributed error was found in the code of the call, or else in a piece of the file that
the call reads. -/
theorem exists_piece_of_mem_contribution {call : Call} {error : Incompatibility}
    (member : error ∈ configuration.contribution files call) :
    ∃ piece, error ∈ configuration.found files call.path piece ∧
      (call.code = some piece ∨
        call.code = none ∧ FileKind.isChecked call.path ∧
          ∃ text, files.readText call.path = .ok text ∧
            piece ∈ configuration.pieces call.path text) := by
  obtain ⟨path, code⟩ := call
  cases code with
  | some code =>
      rw [contribution_of_given] at member
      exact ⟨code, member, Or.inl rfl⟩
  | none =>
      by_cases checked : FileKind.isChecked path
      · cases read : files.readText path with
        | error fault =>
            rw [contribution_of_unreadable configuration files read] at member
            cases member
        | ok text =>
            have goesOn := configuration.not_stops_of_mem_contribution files member
            rw [contribution_of_isChecked configuration files checked read goesOn] at member
            obtain ⟨piece, isPiece, found⟩ := List.mem_flatMap.mp member
            exact ⟨piece, found, Or.inr ⟨rfl, checked, text, rfl, isPiece⟩⟩
      · rw [contribution_of_not_isChecked configuration files checked] at member
        cases member

end Configuration

end EditionGuard
