import EditionGuard.Proofs.Except
import EditionGuard.Proofs.Session.History
import Mathlib.Data.List.Perm.Basic

/-!
# The ledger of a session

A session neither loses nor invents errors.  Each call appends its own contribution to the
errors that are held, so what was taken and what is still held are together the
contributions of all calls, in the order in which these are done.  The number of files counts the
calls that look at one, and nothing sets it back.  A session goes on as long as no call stops it.
-/

namespace EditionGuard

theorem FileKind.isChecked_iff {path : List Char} :
    FileKind.isChecked path ↔ ∃ ending ∈ Call.endings, ending.toList <:+ path := by
  simp [FileKind.isChecked, FileKind.isPage, FileKind.isScript, FileKind.endsIn,
    Call.endings, List.isSuffixOf_iff_suffix]

namespace Configuration

variable {configuration : Configuration} {files : FileSystem} {call : Call}
  {outcome : CheckOutcome}

theorem counted_of_check
    (checked : configuration.check files call.path call.code = .ok outcome) :
    outcome.counted = decide call.LooksAtFile := by
  obtain ⟨path, code⟩ := call
  cases code with
  | some code =>
      obtain ⟨found, _, made⟩ := exists_of_bind_eq_ok checked
      cases made
      simp [Configuration.outcome, Call.LooksAtFile]
  | none =>
      have looks : (⟨path, none⟩ : Call).LooksAtFile ↔ FileKind.isChecked path :=
        (and_iff_right rfl).trans FileKind.isChecked_iff.symm
      simp only [check, checkFile] at checked
      split at checked
      · rename_i isChecked
        rw [decide_eq_true (looks.mpr isChecked)]
        split at checked
        · cases checked
          rfl
        · obtain ⟨found, _, made⟩ := exists_of_bind_eq_ok checked
          cases made
          rfl
      · rename_i notChecked
        cases checked
        rw [decide_eq_false (mt looks.mp notChecked)]

theorem contribution_of_check
    (checked : configuration.check files call.path call.code = .ok outcome) :
    configuration.contribution files call = (outcome.result.toOption).getD [] := by
  rw [contribution, checked]

def Fails (configuration : Configuration) (files : FileSystem) (call : Call)
    (problem : Problem) : Prop :=
  ∃ outcome, configuration.check files call.path call.code = .ok outcome ∧
    outcome.result = .error problem

theorem Fails.contribution {problem : Problem} (fails : configuration.Fails files call problem) :
    configuration.contribution files call = [] := by
  obtain ⟨outcome, checked, failed⟩ := fails
  rw [contribution_of_check checked, failed]
  rfl

theorem Fails.not_stops {problem : Problem} (fails : configuration.Fails files call problem) :
    ¬ configuration.Stops files call := by
  rintro ⟨stop, stopped⟩
  obtain ⟨outcome, checked, _⟩ := fails
  rw [stopped] at checked
  cases checked

end Configuration

namespace Session

/-- How calls change a session that they do not stop: they leave its configuration, append their
contributions to its errors, of which some may then be taken, and count the files that they look
at. -/
structure Advances (files : FileSystem) (calls : List Call) (taken : List Incompatibility)
    (earlier later : Session) : Prop where
  goesOn : ∀ call ∈ calls, ¬ earlier.configuration.Stops files call
  configuration : later.configuration = earlier.configuration
  errors : taken ++ later.errors =
    earlier.errors ++ calls.flatMap (earlier.configuration.contribution files)
  filesChecked : later.filesChecked =
    earlier.filesChecked + calls.countP fun call => decide call.LooksAtFile

variable {files : FileSystem} {session next : Session}

namespace Advances

theorem refl (files : FileSystem) (session : Session) :
    Advances files [] [] session session :=
  ⟨by simp, rfl, by simp, by simp⟩

theorem trans {first second : List Call} {taken more : List Incompatibility}
    {earlier middle later : Session}
    (toMiddle : Advances files first taken earlier middle)
    (toLater : Advances files second more middle later) :
    Advances files (first ++ second) (taken ++ more) earlier later := by
  refine ⟨?_, toLater.configuration.trans toMiddle.configuration, ?_, ?_⟩
  · intro call isCall
    rcases List.mem_append.mp isCall with inFirst | inSecond
    · exact toMiddle.goesOn call inFirst
    · rw [← toMiddle.configuration]
      exact toLater.goesOn call inSecond
  · rw [List.append_assoc, toLater.errors, ← List.append_assoc, toMiddle.errors,
      toMiddle.configuration, List.flatMap_append, List.append_assoc]
  · rw [toLater.filesChecked, toMiddle.filesChecked, List.countP_append, Nat.add_assoc]

theorem note {calls : List Call} {taken : List Incompatibility} {earlier later : Session}
    (advances : Advances files calls taken earlier later) (events : List LogEvent) :
    Advances files calls taken earlier (later.note events) :=
  ⟨advances.goesOn, advances.configuration, advances.errors, advances.filesChecked⟩

end Advances

/-! ## Single checks -/

theorem advances_check {call : Call} {problem : Option Problem}
    (checked : session.check files call.path call.code = .ok (next, problem)) :
    Advances files [call] [] session next := by
  obtain ⟨outcome, isOutcome, made⟩ := exists_of_bind_eq_ok checked
  cases made
  refine ⟨?_, rfl, ?_, ?_⟩
  · rintro _ isCall ⟨stop, stopped⟩
    rw [List.mem_singleton.mp isCall, isOutcome] at stopped
    cases stopped
  · rw [List.flatMap_singleton, Configuration.contribution_of_check isOutcome]
    rfl
  · rw [List.countP_singleton, ← Configuration.counted_of_check isOutcome]
    rfl

theorem stops_of_check {call : Call} {stop : Overflow}
    (stopped : session.check files call.path call.code = .error stop) :
    session.configuration.Stops files call := by
  rcases exists_of_bind_eq_error stopped with byCheck | ⟨outcome, _, goneOn⟩
  · exact ⟨stop, byCheck⟩
  · cases goneOn

/-- An asset that cannot be read ends only its own check. -/
theorem advances_checkAsset {path : List Char}
    (checked : checkAsset files session path = .ok next) :
    Advances files [{ path }] [] session next := by
  obtain ⟨⟨later, problem⟩, isChecked, made⟩ := exists_of_bind_eq_ok checked
  have advances : Advances files [{ path }] [] session later := advances_check isChecked
  cases problem with
  | none =>
      cases made
      exact advances
  | some problem =>
      cases made
      exact advances.note _

theorem stops_of_checkAsset {path : List Char} {stop : Overflow}
    (stopped : checkAsset files session path = .error stop) :
    session.configuration.Stops files { path } := by
  rcases exists_of_bind_eq_error stopped with byCheck | ⟨⟨later, problem⟩, _, goneOn⟩
  · exact @stops_of_check files session { path } stop byCheck
  · cases problem <;> cases goneOn

theorem advances_foldlM {paths : List (List Char)}
    (checked : paths.foldlM (checkAsset files) session = .ok next) :
    Advances files (paths.map fun path => { path }) [] session next := by
  induction paths generalizing session with
  | nil =>
      cases checked
      exact Advances.refl files next
  | cons path rest inductionHypothesis =>
      rw [List.foldlM_cons] at checked
      obtain ⟨middle, isMiddle, restChecked⟩ := exists_of_bind_eq_ok checked
      exact (advances_checkAsset isMiddle).trans (inductionHypothesis restChecked)

theorem stops_of_foldlM {paths : List (List Char)} {stop : Overflow}
    (stopped : paths.foldlM (checkAsset files) session = .error stop) :
    ∃ path ∈ paths, session.configuration.Stops files { path } := by
  induction paths generalizing session with
  | nil => cases stopped
  | cons path rest inductionHypothesis =>
      rw [List.foldlM_cons] at stopped
      rcases exists_of_bind_eq_error stopped with atOnce | ⟨middle, isMiddle, restStopped⟩
      · exact ⟨path, .head rest, stops_of_checkAsset atOnce⟩
      · obtain ⟨other, member, stops⟩ := inductionHypothesis restStopped
        rw [(advances_checkAsset isMiddle).configuration] at stops
        exact ⟨other, .tail path member, stops⟩

/-! ## Tasks and steps -/

theorem checkAssets_eq (files : FileSystem) (session : Session) (schedule : Schedule)
    (folder : List Char) (assets : List (List Char)) :
    ∃ events, session.checkAssets files schedule folder assets =
      (schedule.order (session.configuration.wantedPaths folder assets)).foldlM
        (checkAsset files) (session.note events) :=
  ⟨_, rfl⟩

theorem advances_checkAssets {schedule : Schedule} {folder : List Char}
    {assets : List (List Char)}
    (checked : session.checkAssets files schedule folder assets = .ok next) :
    Advances files (Task.calls session.configuration (.checkAssets folder assets schedule)) []
      session next := by
  obtain ⟨events, isFold⟩ := checkAssets_eq files session schedule folder assets
  rw [isFold] at checked
  exact ((Advances.refl files session).note events).trans (advances_foldlM checked)

theorem stops_of_checkAssets {schedule : Schedule} {folder : List Char}
    {assets : List (List Char)} {stop : Overflow}
    (stopped : session.checkAssets files schedule folder assets = .error stop) :
    ∃ call ∈ Task.calls session.configuration (.checkAssets folder assets schedule),
      session.configuration.Stops files call := by
  obtain ⟨events, isFold⟩ := checkAssets_eq files session schedule folder assets
  rw [isFold] at stopped
  obtain ⟨path, member, stops⟩ := stops_of_foldlM stopped
  exact ⟨{ path }, List.mem_map_of_mem member, stops⟩

theorem advances_perform {task : Task} {answer : Answer}
    (performed : session.perform files task = .ok (answer, next)) :
    Advances files (task.calls session.configuration) answer.takenErrors session next := by
  cases task with
  | check call =>
      obtain ⟨⟨later, problem⟩, checked, made⟩ := exists_of_bind_eq_ok performed
      cases made
      exact advances_check checked
  | checkAssets folder assets schedule =>
      obtain ⟨later, checked, made⟩ := exists_of_bind_eq_ok performed
      cases made
      exact advances_checkAssets checked

theorem stops_of_perform {task : Task} {stop : Overflow}
    (stopped : session.perform files task = .error stop) :
    ∃ call ∈ task.calls session.configuration, session.configuration.Stops files call := by
  cases task with
  | check call =>
      rcases exists_of_bind_eq_error stopped with byCheck | ⟨later, _, goneOn⟩
      · exact ⟨call, .head [], stops_of_check byCheck⟩
      · cases goneOn
  | checkAssets folder assets schedule =>
      rcases exists_of_bind_eq_error stopped with byCheck | ⟨later, _, goneOn⟩
      · exact stops_of_checkAssets byCheck
      · cases goneOn

/-- What a step gives away and leaves are the errors that were held and the contributions of
its calls; taking the errors does not set the number of files back. -/
theorem advances_step {step : Step} {answer : Answer}
    (taken : session.step files step = .ok (answer, next)) :
    Advances files (step.calls session.configuration) answer.takenErrors session next := by
  cases step with
  | task work => exact advances_perform taken
  | errors =>
      cases taken
      exact Advances.refl files session
  | takeErrors =>
      cases taken
      exact ⟨by simp [Step.calls], rfl, by simp [Step.calls, Answer.takenErrors], rfl⟩
  | printReport sink =>
      cases taken
      exact Advances.refl files session

theorem stops_of_step {step : Step} {stop : Overflow}
    (stopped : session.step files step = .error stop) :
    ∃ call ∈ step.calls session.configuration, session.configuration.Stops files call := by
  cases step with
  | task work => exact stops_of_perform stopped
  | errors => cases stopped
  | takeErrors => cases stopped
  | printReport sink => cases stopped

/-! ## Runs -/

theorem advances_run {steps : List Step} {history : History}
    (isRun : session.run files steps = .ok history) :
    Advances files (steps.flatMap (Step.calls session.configuration))
      (history.answers.flatMap Answer.takenErrors) session history.session := by
  induction steps generalizing session history with
  | nil =>
      cases isRun
      exact Advances.refl files session
  | cons step rest inductionHypothesis =>
      obtain ⟨⟨answer, next⟩, taken, restRun⟩ := exists_of_bind_eq_ok isRun
      obtain ⟨later, isLater, made⟩ := exists_of_bind_eq_ok restRun
      cases made
      have afterStep := advances_step taken
      have afterRest := inductionHypothesis isLater
      rw [afterStep.configuration] at afterRest
      exact afterStep.trans afterRest

theorem stops_of_run {steps : List Step} {stop : Overflow}
    (stopped : session.run files steps = .error stop) :
    ∃ call ∈ steps.flatMap (Step.calls session.configuration),
      session.configuration.Stops files call := by
  induction steps generalizing session with
  | nil => cases stopped
  | cons step rest inductionHypothesis =>
      rw [List.flatMap_cons]
      rcases exists_of_bind_eq_error stopped with atOnce | ⟨⟨answer, next⟩, taken, restStopped⟩
      · obtain ⟨call, member, stops⟩ := stops_of_step atOnce
        exact ⟨call, List.mem_append_left _ member, stops⟩
      · rcases exists_of_bind_eq_error restStopped with later | ⟨history, _, goneOn⟩
        · obtain ⟨call, member, stops⟩ := inductionHypothesis later
          rw [(advances_step taken).configuration] at member stops
          exact ⟨call, List.mem_append_right _ member, stops⟩
        · cases goneOn

/-- A session goes through all of its steps if and only if no call among them stops it. -/
theorem exists_run_eq_ok_iff {steps : List Step} :
    (∃ history, session.run files steps = .ok history) ↔
      ∀ call ∈ steps.flatMap (Step.calls session.configuration),
        ¬ session.configuration.Stops files call := by
  constructor
  · rintro ⟨history, isRun⟩
    exact (advances_run isRun).goesOn
  · intro goesOn
    cases isRun : session.run files steps with
    | ok history => exact ⟨history, rfl⟩
    | error stop =>
        obtain ⟨call, member, stops⟩ := stops_of_run isRun
        exact absurd stops (goesOn call member)

/-! ## Assets -/

section Assets

variable {schedule other : Schedule} {folder : List Char} {assets : List (List Char)}

theorem exists_checkAssets_eq_ok_iff :
    (∃ next, session.checkAssets files schedule folder assets = .ok next) ↔
      ∀ path ∈ session.configuration.wantedPaths folder assets,
        ¬ session.configuration.Stops files { path } := by
  have samePaths := schedule.perm (session.configuration.wantedPaths folder assets)
  constructor
  · rintro ⟨next, checked⟩ path member
    exact (advances_checkAssets checked).goesOn { path }
      (List.mem_map_of_mem (samePaths.mem_iff.mpr member))
  · intro goesOn
    cases checked : session.checkAssets files schedule folder assets with
    | ok next => exact ⟨next, rfl⟩
    | error stop =>
        obtain ⟨call, member, stops⟩ := stops_of_checkAssets checked
        obtain ⟨path, listed, rfl⟩ := List.mem_map.mp member
        exact absurd stops (goesOn path (samePaths.mem_iff.mp listed))

theorem errors_checkAssets
    (checked : session.checkAssets files schedule folder assets = .ok next) :
    next.errors = session.errors ++
      (schedule.order (session.configuration.wantedPaths folder assets)).flatMap
        fun path => session.configuration.contribution files { path } := by
  have errors := (advances_checkAssets checked).errors
  rwa [List.nil_append, Task.calls, List.flatMap_map] at errors

theorem errors_checkAssets_perm
    (checked : session.checkAssets files schedule folder assets = .ok next) :
    next.errors.Perm (session.errors ++
      (session.configuration.wantedPaths folder assets).flatMap
        fun path => session.configuration.contribution files { path }) := by
  rw [errors_checkAssets checked]
  exact ((schedule.perm _).flatMap_right _).append_left _

variable {asset : List Char} {earlier later : List (List Char)} {problem : Problem}

/-- An asset whose check fails stops no session. -/
theorem exists_checkAssets_eq_ok_iff_of_fails
    (fails : session.configuration.Fails files { path := assetPath folder asset } problem) :
    (∃ next, session.checkAssets files schedule folder (earlier ++ asset :: later) =
        .ok next) ↔
      ∃ next, session.checkAssets files other folder (earlier ++ later) = .ok next := by
  rw [exists_checkAssets_eq_ok_iff, exists_checkAssets_eq_ok_iff, Configuration.wantedPaths,
    Configuration.wantedPaths]
  simp only [List.map_append, List.map_cons, List.filter_append, List.filter_cons]
  split
  · simp only [List.forall_mem_append, List.forall_mem_cons, fails.not_stops, not_false_eq_true,
      true_and]
  · rfl

/-- Nor does it change what the other assets contribute. -/
theorem flatMap_wantedPaths_of_fails {configuration : Configuration}
    (fails : configuration.Fails files { path := assetPath folder asset } problem) :
    ((configuration.wantedPaths folder (earlier ++ asset :: later)).flatMap
        fun path => configuration.contribution files { path }) =
      (configuration.wantedPaths folder (earlier ++ later)).flatMap
        fun path => configuration.contribution files { path } := by
  simp only [Configuration.wantedPaths, List.map_append, List.map_cons, List.filter_append,
    List.flatMap_append, List.filter_cons]
  split
  · rw [List.flatMap_cons, fails.contribution, List.nil_append]
  · rfl

end Assets

end Session

/-- The ledger of a session, over any steps from its opening on.  The session goes through all of
them if and only if no call stops it.  Then what was taken and what is still held are together the
contributions of the calls, in the order of the steps, and for the assets of one step in the order
in which their checks are done; and the files that calls look at are all counted.  An asset whose
check fails is, for the errors, as good as absent. -/
theorem run_ledger (files : FileSystem) (configuration : Configuration)
    (steps : List Step) :
    ((∃ history, Session.run files { configuration } steps = .ok history) ↔
      ∀ call ∈ steps.flatMap (Step.calls configuration), ¬ configuration.Stops files call) ∧
    (∀ history, Session.run files { configuration } steps = .ok history →
      history.answers.flatMap Answer.takenErrors ++ history.session.errors =
        (steps.flatMap (Step.calls configuration)).flatMap (configuration.contribution files) ∧
      history.session.filesChecked =
        (steps.flatMap (Step.calls configuration)).countP
          fun call => decide call.LooksAtFile) ∧
    (∀ folder assets schedule,
      (Task.calls configuration (.checkAssets folder assets schedule)).Perm
        ((configuration.wantedPaths folder assets).map fun path => { path })) ∧
    ∀ (session : Session) (folder asset : List Char) (earlier later : List (List Char))
      (problem : Problem), session.configuration = configuration →
        configuration.Fails files { path := Session.assetPath folder asset } problem →
        configuration.contribution files { path := Session.assetPath folder asset } = [] ∧
        ∀ schedule other : Schedule,
          ((∃ next, session.checkAssets files schedule folder (earlier ++ asset :: later) =
              .ok next) ↔
            ∃ next, session.checkAssets files other folder (earlier ++ later) = .ok next) ∧
          ∀ withAsset without,
            session.checkAssets files schedule folder (earlier ++ asset :: later) =
              .ok withAsset →
            session.checkAssets files other folder (earlier ++ later) = .ok without →
              withAsset.errors.Perm without.errors ∧
              (schedule = .inTurn → other = .inTurn →
                withAsset.errors = without.errors) := by
  refine ⟨Session.exists_run_eq_ok_iff, ?_, ?_, ?_⟩
  · intro history isRun
    have advances := Session.advances_run isRun
    have counted := advances.filesChecked
    rw [Nat.zero_add] at counted
    exact ⟨advances.errors, counted⟩
  · intro folder assets schedule
    exact (schedule.perm _).map _
  · rintro session folder asset earlier later problem rfl fails
    refine ⟨fails.contribution, ?_⟩
    intro schedule other
    refine ⟨Session.exists_checkAssets_eq_ok_iff_of_fails fails, ?_⟩
    intro withAsset without isWith isWithout
    have sameContributions :=
      @Session.flatMap_wantedPaths_of_fails files folder asset earlier later problem _ fails
    constructor
    · have withErrors := Session.errors_checkAssets_perm isWith
      rw [sameContributions] at withErrors
      exact withErrors.trans (Session.errors_checkAssets_perm isWithout).symm
    · rintro rfl rfl
      rw [Session.errors_checkAssets isWith, Session.errors_checkAssets isWithout]
      exact congrArg _ sameContributions

/-- A folder that holds one script, which `es5` cannot read. -/
def oneScript : FileSystem where
  top := .folder [("let.js".toList, .file (Text.Utf8.encode "let a".toList))]

/-- A missing asset fails, and the script named after it is checked all the same. -/
theorem run_ledger_missingAsset :
    ∃ withAsset without,
      Session.checkAssets { configuration := { edition := .es5 } } oneScript .inTurn ['/']
        ["gone.js".toList, "let.js".toList] = .ok withAsset ∧
      Session.checkAssets { configuration := { edition := .es5 } } oneScript .inTurn ['/']
        ["let.js".toList] = .ok without ∧
      withAsset.errors = without.errors := by
  have fails : Configuration.Fails { edition := .es5 } oneScript
      { path := Session.assetPath ['/'] "gone.js".toList }
      (.unreadable "/gone.js" .notFound) := ⟨_, rfl, rfl⟩
  obtain ⟨-, agrees⟩ := (run_ledger oneScript { edition := .es5 } []).2.2.2
    { configuration := { edition := .es5 } } ['/'] "gone.js".toList [] ["let.js".toList] _ rfl
    fails
  obtain ⟨alike, errors⟩ := agrees .inTurn .inTurn
  have shown : (Session.checkAssets { configuration := { edition := .es5 } } oneScript .inTurn
      ['/'] ["let.js".toList]).toOption.map (·.filesChecked) = some 1 := by
    decide +kernel
  obtain ⟨without, isWithout, _⟩ := exists_of_map_toOption_eq_some shown
  obtain ⟨withAsset, isWith⟩ := alike.mpr ⟨without, isWithout⟩
  exact ⟨withAsset, without, isWith, isWithout, (errors _ _ isWith isWithout).2 rfl rfl⟩

/-- The last check of a list is done first. -/
def Schedule.backwards : Schedule := ⟨List.reverse, fun paths => paths.reverse_perm⟩

/-- A folder that holds two scripts, neither of which `es5` can read. -/
def scriptPair : FileSystem where
  top := .folder [("a.js".toList, .file (Text.Utf8.encode "let a".toList)),
    ("b.js".toList, .file (Text.Utf8.encode "let b".toList))]

/-- The errors of two assets need not be in the order of the assets. -/
theorem run_ledger_not_in_asset_order :
    (Session.run scriptPair { configuration := { edition := .es5 } }
        [.task (.checkAssets ['/'] ["a.js".toList, "b.js".toList] .backwards)]).toOption.map
      (fun history => history.session.errors.map (·.source.absolutePath)) =
        some ["/b.js", "/a.js"] ∧
    (([{ path := "/a.js".toList }, { path := "/b.js".toList }] : List Call).flatMap
      (Configuration.contribution { edition := .es5 } scriptPair)).map
        (·.source.absolutePath) = ["/a.js", "/b.js"] := by
  decide +kernel

end EditionGuard
