import EditionGuard.Proofs.Session.Ledger
import Mathlib.Data.List.Basic

/-!
# Exclusions are filters

A session with exclusions goes on as one without.  Of the errors that the latter holds it leaves
out those whose source or message is excluded, and those that stem from reading a page whose own
path is excluded.  So more conditions leave fewer errors, and conditions that no candidate meets
change nothing.  The errors of one check keep their order; those of assets that are checked side by
side come in the order in which their checks are done.
-/

namespace EditionGuard

/-! ## Findings before exclusion -/

structure Discovery where
  call : Call
  finding : Incompatibility
deriving DecidableEq, Repr, Inhabited

namespace Discovery

def isFromPage (discovery : Discovery) : Bool :=
  discovery.call.code.isNone && FileKind.isPage discovery.call.path

/-- What an exclusion of sources is tried on: the file of the source and, if a page was read,
the path of the page. -/
def sourceCandidates (discovery : Discovery) : List (List Char) :=
  discovery.finding.source.absolutePath.toList ::
    if discovery.isFromPage then [discovery.call.path] else []

/-- What an exclusion of messages is tried on. -/
def messageCandidate (discovery : Discovery) : List Char := discovery.finding.message.toList

/-- Whether two exclusions, of sources and of messages, leave a discovery in. -/
def isRetained (sources messages : Exclusion) (discovery : Discovery) : Bool :=
  !sources.excludes discovery.finding.source.absolutePath.toList &&
    !messages.excludes discovery.messageCandidate &&
    !(discovery.isFromPage && sources.excludes discovery.call.path)

end Discovery

namespace Configuration

def withoutExclusions (configuration : Configuration) : Configuration :=
  { configuration with exclude := {}, excludeMessage := {} }

/-- What some calls discover in order, before anything is excluded. -/
def discoveries (configuration : Configuration) (files : FileSystem) (calls : List Call) :
    List Discovery :=
  calls.flatMap fun call =>
    (configuration.withoutExclusions.contribution files call).map fun finding =>
      ⟨call, finding⟩

end Configuration

namespace Exclusion

/-- Whether one exclusion has all conditions of another, in whatever order. -/
def Extends (more exclusion : Exclusion) : Prop := exclusion.conditions ⊆ more.conditions

/-- Whether all conditions that one exclusion has and another has not are met by none of
some candidates. -/
def AddsNothingFor (more exclusion : Exclusion) (candidates : List (List Char)) : Prop :=
  ∀ condition ∈ more.conditions, condition ∈ exclusion.conditions ∨
    ∀ candidate ∈ candidates, condition.holds candidate = false

theorem excludes_iff {exclusion : Exclusion} {candidate : List Char} :
    exclusion.excludes candidate ↔
      ∃ condition ∈ exclusion.conditions, condition.holds candidate :=
  List.any_eq_true

theorem Extends.excludes {more exclusion : Exclusion} (extended : more.Extends exclusion)
    {candidate : List Char} (excluded : exclusion.excludes candidate) :
    more.excludes candidate := by
  obtain ⟨condition, member, holds⟩ := excludes_iff.mp excluded
  exact excludes_iff.mpr ⟨condition, extended member, holds⟩

theorem AddsNothingFor.excludes {more exclusion : Exclusion}
    {candidates : List (List Char)} (idle : more.AddsNothingFor exclusion candidates)
    {candidate : List Char} (member : candidate ∈ candidates)
    (excluded : more.excludes candidate) : exclusion.excludes candidate := by
  obtain ⟨condition, conditionMember, holds⟩ := excludes_iff.mp excluded
  rcases idle condition conditionMember with inExclusion | missed
  · exact excludes_iff.mpr ⟨condition, inExclusion, holds⟩
  · rw [missed candidate member] at holds
    cases holds

end Exclusion

/-! ## One call -/

namespace Configuration

variable (configuration : Configuration) (files : FileSystem)

def keeps (finding : Incompatibility) : Bool :=
  !configuration.exclude.excludes finding.source.absolutePath.toList &&
    !configuration.excludeMessage.excludes finding.message.toList

theorem ofFailure_value (view : View) (sources messages : Exclusion) (output : OutputFile)
    (failure : Gate.Failure) :
    (Incompatibility.ofFailure files view sources messages output failure).map
        (fun found => found.value.toList) =
      (Incompatibility.locate files view output failure).map fun located =>
        [located.value].filter fun finding =>
          !sources.excludes finding.source.absolutePath.toList &&
            !messages.excludes finding.message.toList := by
  rw [Incompatibility.ofFailure]
  cases Incompatibility.locate files view output failure with
  | error stop => rfl
  | ok located =>
      rw [ok_bind, Incompatibility.exclusion?]
      cases bySource : sources.excludes located.value.source.absolutePath.toList <;>
        cases byMessage : messages.excludes located.value.message.toList <;>
        simp [Except.map, pure, Except.pure, bySource, byMessage]

theorem findings_of_failure {path code : List Char} {failure : Gate.Failure}
    (failed : Gate.check code configuration.edition (Script.Goal.ofPath path) = some failure) :
    (configuration.findings files path code).map Logged.value =
      (Incompatibility.locate files configuration.view ⟨path, code⟩ failure).map fun located =>
        [located.value].filter configuration.keeps := by
  refine Eq.trans ?_ (ofFailure_value files configuration.view configuration.exclude
    configuration.excludeMessage ⟨path, code⟩ failure)
  simp only [findings, failed]
  cases Incompatibility.ofFailure files configuration.view configuration.exclude
    configuration.excludeMessage ⟨path, code⟩ failure <;> rfl

theorem findings_of_passed {path code : List Char}
    (passed : Gate.check code configuration.edition (Script.Goal.ofPath path) = none) :
    configuration.findings files path code = .ok { value := [] } := by
  rw [findings, passed]

theorem findings_eq_filter (path code : List Char) :
    (configuration.findings files path code).map Logged.value =
      ((configuration.withoutExclusions.findings files path code).map Logged.value).map
        (List.filter configuration.keeps) := by
  cases checked : Gate.check code configuration.edition (Script.Goal.ofPath path) with
  | none =>
      rw [configuration.findings_of_passed files checked,
        configuration.withoutExclusions.findings_of_passed files checked]
      rfl
  | some failure =>
      rw [configuration.findings_of_failure files checked,
        configuration.withoutExclusions.findings_of_failure files checked, map_map]
      rfl

theorem allFindings_cons (path piece : List Char) (rest : List (List Char)) :
    (configuration.allFindings files path (piece :: rest)).map Logged.value =
      (configuration.findings files path piece).map Logged.value >>= fun first =>
        ((configuration.allFindings files path rest).map Logged.value).map (first ++ ·) := by
  simp only [allFindings, List.mapM_cons]
  cases configuration.findings files path piece with
  | error stop => rfl
  | ok first => cases rest.mapM (configuration.findings files path) <;> rfl

theorem allFindings_eq_filter (path : List Char) (pieces : List (List Char)) :
    (configuration.allFindings files path pieces).map Logged.value =
      ((configuration.withoutExclusions.allFindings files path pieces).map Logged.value).map
        (List.filter configuration.keeps) := by
  induction pieces with
  | nil => rfl
  | cons piece rest inductionHypothesis =>
      rw [allFindings_cons, allFindings_cons, inductionHypothesis, findings_eq_filter]
      cases (configuration.withoutExclusions.findings files path piece).map Logged.value with
      | error stop => rfl
      | ok first =>
          cases (configuration.withoutExclusions.allFindings files path rest).map Logged.value with
          | error stop => rfl
          | ok others => exact congrArg Except.ok (List.filter_append first others).symm

/-! ### Retained findings -/

section Retained

variable (call : Call)

def retains (finding : Incompatibility) : Bool :=
  Discovery.isRetained configuration.exclude configuration.excludeMessage ⟨call, finding⟩

/-- Whether a call reads a page whose own path is excluded. -/
def passesOver : Bool :=
  call.code.isNone && FileKind.isPage call.path && configuration.exclude.excludes call.path

/-- Unless an excluded page was read, findings are retained if they are kept. -/
theorem retains_eq_keeps (notExcluded : configuration.passesOver call = false) :
    configuration.retains call = configuration.keeps := by
  funext finding
  rw [passesOver] at notExcluded
  rw [retains, Discovery.isRetained, Discovery.isFromPage, notExcluded]
  exact Bool.and_true _

theorem retains_eq_false (excluded : configuration.passesOver call = true)
    (finding : Incompatibility) : configuration.retains call finding = false := by
  rw [passesOver] at excluded
  rw [retains, Discovery.isRetained, Discovery.isFromPage, excluded]
  exact Bool.and_false _

end Retained

/-- A page that is not excluded has the same pieces as without exclusions, and so has any file of
another kind. -/
theorem pieces_eq_of_not_passesOver {path : List Char}
    (notExcluded : configuration.passesOver { path } = false) (text : List Char) :
    configuration.pieces path text = configuration.withoutExclusions.pieces path text := by
  rw [pieces, pieces]
  by_cases page : FileKind.isPage path
  · have sources : configuration.exclude.excludes path = false := by
      simpa [passesOver, page] using notExcluded
    rw [if_pos page, if_pos page, sources]
    rfl
  · rw [if_neg page, if_neg page]

theorem result_checkCode (path code : List Char) :
    (configuration.checkCode files path code).map CheckOutcome.result =
      ((configuration.findings files path code).map Logged.value).map .ok := by
  rw [checkCode]
  cases configuration.findings files path code <;> rfl

theorem result_checkFile {path text : List Char} (checked : FileKind.isChecked path)
    (read : files.readText path = .ok text) :
    (configuration.checkFile files path).map CheckOutcome.result =
      ((configuration.allFindings files path (configuration.pieces path text)).map
        Logged.value).map .ok := by
  simp only [checkFile, if_pos checked, read]
  cases configuration.allFindings files path (configuration.pieces path text) <;> rfl

theorem checkFile_of_unreadable {path : List Char} {fault : ReadFault}
    (checked : FileKind.isChecked path) (unreadable : files.readText path = .error fault) :
    configuration.checkFile files path =
      .ok { counted := true, result := .error (.unreadable (String.ofList path) fault) } := by
  simp only [checkFile, if_pos checked, unreadable]

theorem checkFile_of_not_isChecked {path : List Char} (notChecked : ¬ FileKind.isChecked path) :
    configuration.checkFile files path =
      .ok { counted := false, result := .ok [], events := [.skipped (String.ofList path)] } := by
  simp only [checkFile, if_neg notChecked]

/-- Unless a call reads an excluded page, it goes as without exclusions, and its findings are those
that are kept. -/
theorem result_of_not_passesOver {call : Call}
    (notExcluded : configuration.passesOver call = false) :
    (configuration.check files call.path call.code).map CheckOutcome.result =
      ((configuration.withoutExclusions.check files call.path call.code).map
        CheckOutcome.result).map (Except.map (List.filter (configuration.retains call))) := by
  rw [configuration.retains_eq_keeps call notExcluded]
  obtain ⟨path, code⟩ := call
  cases code with
  | some code =>
      simp only [check, result_checkCode, findings_eq_filter configuration, map_map]
      rfl
  | none =>
      simp only [check]
      by_cases checked : FileKind.isChecked path
      · cases read : files.readText path with
        | error fault => simp only [checkFile_of_unreadable _ _ checked read, Except.map]
        | ok text =>
            have samePieces := configuration.pieces_eq_of_not_passesOver notExcluded text
            simp only [result_checkFile _ _ checked read, samePieces,
              allFindings_eq_filter configuration, map_map]
            rfl
      · simp only [checkFile_of_not_isChecked _ _ checked, Except.map, List.filter_nil]

/-- An excluded page is only read. -/
theorem result_of_passesOver {call : Call} (excluded : configuration.passesOver call = true) :
    ∃ outcome, configuration.check files call.path call.code = .ok outcome ∧
      ∀ plain, configuration.withoutExclusions.check files call.path call.code = .ok plain →
        outcome.result = plain.result.map (List.filter (configuration.retains call)) := by
  obtain ⟨path, code⟩ := call
  have notKept := configuration.retains_eq_false ⟨path, code⟩ excluded
  rw [passesOver, Bool.and_eq_true, Bool.and_eq_true] at excluded
  obtain ⟨⟨notGiven, page⟩, sources⟩ := excluded
  obtain rfl : code = none := Option.isNone_iff_eq_none.mp notGiven
  have checked : FileKind.isChecked path := by rw [FileKind.isChecked, page, Bool.true_or]
  simp only [check]
  cases read : files.readText path with
  | error fault =>
      simp only [checkFile_of_unreadable _ _ checked read]
      refine ⟨_, rfl, ?_⟩
      rintro plain ⟨⟩
      rfl
  | ok text =>
      have nothing : configuration.pieces path text = [] := by
        rw [pieces, if_pos page, if_pos sources]
      have empty := configuration.result_checkFile files checked read
      rw [nothing] at empty
      obtain ⟨outcome, isOutcome, result⟩ := exists_of_map_eq_ok empty
      refine ⟨outcome, isOutcome, ?_⟩
      intro plain isPlain
      have plainResult := configuration.withoutExclusions.result_checkFile files checked read
      rw [isPlain, Except.map] at plainResult
      obtain ⟨found, _, isFound⟩ := exists_of_map_eq_ok plainResult.symm
      rw [result, ← isFound, Except.map, List.filter_eq_nil_iff.mpr fun finding _ => by
        simp [notKept finding]]
      rfl

/-- A call goes on under exclusions if it goes on without them, with the same problem if any, and
it finds what is retained of the findings without exclusions. -/
theorem exists_check_of_withoutExclusions {call : Call} {plain : CheckOutcome}
    (isPlain : configuration.withoutExclusions.check files call.path call.code = .ok plain) :
    ∃ outcome, configuration.check files call.path call.code = .ok outcome ∧
      outcome.result = plain.result.map (List.filter (configuration.retains call)) := by
  cases excluded : configuration.passesOver call with
  | true =>
      obtain ⟨outcome, isOutcome, result⟩ := configuration.result_of_passesOver files excluded
      exact ⟨outcome, isOutcome, result plain isPlain⟩
  | false =>
      have results := configuration.result_of_not_passesOver files excluded
      rw [isPlain] at results
      exact exists_of_map_eq_ok results

/-- Exclusions keep a call from stopping the session just where they keep it from checking a
page. -/
theorem stops_iff_withoutExclusions {call : Call} :
    configuration.Stops files call ↔
      configuration.withoutExclusions.Stops files call ∧
        configuration.passesOver call = false := by
  cases excluded : configuration.passesOver call with
  | true =>
      obtain ⟨outcome, isOutcome, _⟩ := configuration.result_of_passesOver files excluded
      simp [Stops, isOutcome]
  | false =>
      have results := configuration.result_of_not_passesOver files excluded
      simp only [Stops, and_true]
      refine exists_congr fun stop => ?_
      rw [← map_eq_error_iff, results, map_eq_error_iff, map_eq_error_iff]

/-- What a call contributes is what it contributes without exclusions, as far as this is
retained. -/
theorem contribution_eq_filter {call : Call}
    (goesOn : ¬ configuration.withoutExclusions.Stops files call) :
    configuration.contribution files call =
      (configuration.withoutExclusions.contribution files call).filter
        (configuration.retains call) := by
  cases isPlain : configuration.withoutExclusions.check files call.path call.code with
  | error stop => exact absurd ⟨stop, isPlain⟩ goesOn
  | ok plain =>
      obtain ⟨outcome, isOutcome, result⟩ :=
        configuration.exists_check_of_withoutExclusions files isPlain
      rw [contribution_of_check isOutcome, contribution_of_check isPlain, result]
      cases plain.result <;> rfl

theorem discoveries_cons (call : Call) (rest : List Call) :
    configuration.discoveries files (call :: rest) =
      ((configuration.withoutExclusions.contribution files call).map fun finding =>
        (⟨call, finding⟩ : Discovery)) ++ configuration.discoveries files rest :=
  rfl

theorem flatMap_contribution_eq_filter {calls : List Call}
    (goesOn : ∀ call ∈ calls, ¬ configuration.withoutExclusions.Stops files call) :
    calls.flatMap (configuration.contribution files) =
      ((configuration.discoveries files calls).filter
        (Discovery.isRetained configuration.exclude configuration.excludeMessage)).map
          (·.finding) := by
  induction calls with
  | nil => rfl
  | cons call rest inductionHypothesis =>
      obtain ⟨first, others⟩ := List.forall_mem_cons.mp goesOn
      rw [List.flatMap_cons, inductionHypothesis others,
        contribution_eq_filter configuration files first, discoveries_cons, List.filter_append,
        List.map_append, List.filter_map, List.map_map]
      simp only [Function.comp_def, List.map_id']
      rfl

theorem flatMap_contribution_withoutExclusions (calls : List Call) :
    calls.flatMap (configuration.withoutExclusions.contribution files) =
      (configuration.discoveries files calls).map (·.finding) := by
  rw [discoveries, List.map_flatMap]
  simp only [List.map_map, Function.comp_def, List.map_id']

end Configuration

/-! ## Runs of tasks -/

/-- Whether two tasks are the same work, whatever the order of their checks. -/
inductive Task.SameWork : Task → Task → Prop
  | check (call : Call) : SameWork (.check call) (.check call)
  | checkAssets (folder : List Char) (assets : List (List Char)) (schedule other : Schedule) :
      SameWork (.checkAssets folder assets schedule) (.checkAssets folder assets other)

theorem Task.SameWork.calls_perm {task other : Task} (same : task.SameWork other)
    (configuration : Configuration) :
    (task.calls configuration).Perm (other.calls configuration) := by
  cases same with
  | check call => exact List.Perm.refl _
  | checkAssets folder assets schedule other =>
      exact ((schedule.perm _).trans (other.perm _).symm).map _

def Configuration.callsOf (configuration : Configuration) (tasks : List Task) : List Call :=
  tasks.flatMap (Task.calls configuration)

theorem Configuration.callsOf_perm (configuration : Configuration) {tasks others : List Task}
    (same : List.Forall₂ Task.SameWork tasks others) :
    (configuration.callsOf tasks).Perm (configuration.callsOf others) := by
  induction same with
  | nil => exact List.Perm.refl _
  | cons sameTask _ inductionHypothesis =>
      exact (sameTask.calls_perm configuration).append inductionHypothesis

namespace Session

variable {files : FileSystem}

theorem takenErrors_of_perform {session next : Session} {task : Task} {answer : Answer}
    (performed : session.perform files task = .ok (answer, next)) : answer.takenErrors = [] := by
  cases task with
  | check call =>
      obtain ⟨⟨later, problem⟩, _, made⟩ := exists_of_bind_eq_ok performed
      cases made
      rfl
  | checkAssets folder assets schedule =>
      obtain ⟨later, _, made⟩ := exists_of_bind_eq_ok performed
      cases made
      rfl

theorem takenErrors_of_run_tasks {session : Session} {tasks : List Task} {history : History}
    (isRun : session.run files (tasks.map .task) = .ok history) :
    history.answers.flatMap Answer.takenErrors = [] := by
  induction tasks generalizing session history with
  | nil =>
      cases isRun
      rfl
  | cons task rest inductionHypothesis =>
      obtain ⟨⟨answer, next⟩, performed, restRun⟩ := exists_of_bind_eq_ok isRun
      obtain ⟨later, isLater, made⟩ := exists_of_bind_eq_ok restRun
      cases made
      rw [List.flatMap_cons, takenErrors_of_perform performed, inductionHypothesis isLater]
      rfl

theorem advances_run_tasks {session : Session} {tasks : List Task} {history : History}
    (isRun : session.run files (tasks.map .task) = .ok history) :
    Advances files (session.configuration.callsOf tasks) [] session history.session := by
  have advances := advances_run isRun
  rwa [takenErrors_of_run_tasks isRun, List.flatMap_map] at advances

/-- Whether a session goes beside another as the one without exclusions. -/
structure GoesBeside (plain excluding : Session) : Prop where
  configuration : plain.configuration = excluding.configuration.withoutExclusions
  filesChecked : plain.filesChecked = excluding.filesChecked

theorem progress?_of_perform {session next : Session} {task : Task} {answer : Answer}
    (performed : session.perform files task = .ok (answer, next)) :
    ∃ problem, answer.progress? = some (problem, next.filesChecked) ∧
      match task with
      | .check call => ∃ outcome,
        session.configuration.check files call.path call.code = .ok outcome ∧
          problem = outcome.problem?
      | .checkAssets _ _ _ => problem = none := by
  cases task with
  | check call =>
      obtain ⟨⟨later, problem⟩, checked, made⟩ := exists_of_bind_eq_ok performed
      cases made
      obtain ⟨outcome, isOutcome, filled⟩ := exists_of_bind_eq_ok checked
      cases filled
      exact ⟨_, rfl, outcome, isOutcome, rfl⟩
  | checkAssets folder assets schedule =>
      obtain ⟨later, _, made⟩ := exists_of_bind_eq_ok performed
      cases made
      exact ⟨none, rfl, rfl⟩

/-- A task goes on under exclusions as it does without them, in whatever order its checks are
done. -/
theorem GoesBeside.perform {plain excluding plainNext : Session}
    (beside : GoesBeside plain excluding) {task plainTask : Task}
    (same : task.SameWork plainTask) {plainAnswer : Answer}
    (isPlain : plain.perform files plainTask = .ok (plainAnswer, plainNext)) :
    ∃ answer next, excluding.perform files task = .ok (answer, next) ∧
      GoesBeside plainNext next ∧ answer.progress? = plainAnswer.progress? := by
  have plainAdvances := advances_perform isPlain
  have sameCalls := same.calls_perm excluding.configuration
  have plainCalls : plainTask.calls plain.configuration =
      plainTask.calls excluding.configuration := by
    rw [beside.configuration]
    rfl
  rw [plainCalls] at plainAdvances
  cases performed : excluding.perform files task with
  | error stop =>
      obtain ⟨call, member, stops⟩ := stops_of_perform performed
      have plainStops := ((excluding.configuration.stops_iff_withoutExclusions files).mp stops).1
      rw [← beside.configuration] at plainStops
      exact absurd plainStops (plainAdvances.goesOn call (sameCalls.mem_iff.mp member))
  | ok result =>
      obtain ⟨answer, next⟩ := result
      have advances := advances_perform performed
      have sameCount : plainNext.filesChecked = next.filesChecked := by
        rw [plainAdvances.filesChecked, advances.filesChecked, beside.filesChecked,
          sameCalls.countP_eq]
      refine ⟨answer, next, rfl, ⟨?_, sameCount⟩, ?_⟩
      · rw [plainAdvances.configuration, advances.configuration, beside.configuration]
      · obtain ⟨plainProblem, plainProgress, ofPlain⟩ := progress?_of_perform isPlain
        obtain ⟨problem, progress, ofExcluding⟩ := progress?_of_perform performed
        rw [plainProgress, progress, sameCount]
        cases same with
        | check call =>
            obtain ⟨plainOutcome, isPlainOutcome, rfl⟩ := ofPlain
            obtain ⟨outcome, isOutcome, rfl⟩ := ofExcluding
            rw [beside.configuration] at isPlainOutcome
            obtain ⟨found, isFound, result⟩ :=
              excluding.configuration.exists_check_of_withoutExclusions files isPlainOutcome
            rw [isOutcome] at isFound
            cases isFound
            rw [CheckOutcome.problem?, CheckOutcome.problem?, result]
            cases plainOutcome.result <;> rfl
        | checkAssets folder assets schedule other => rw [ofPlain, ofExcluding]

theorem GoesBeside.run {plain excluding : Session} (beside : GoesBeside plain excluding)
    {tasks plainTasks : List Task} (same : List.Forall₂ Task.SameWork tasks plainTasks)
    {plainHistory : History}
    (isPlain : plain.run files (plainTasks.map .task) = .ok plainHistory) :
    ∃ history, excluding.run files (tasks.map .task) = .ok history ∧
      GoesBeside plainHistory.session history.session ∧
      history.answers.map Answer.progress? = plainHistory.answers.map Answer.progress? := by
  induction same generalizing plain excluding plainHistory with
  | nil =>
      cases isPlain
      exact ⟨⟨[], excluding⟩, rfl, beside, rfl⟩
  | @cons task plainTask rest plainRest sameTask _ inductionHypothesis =>
      obtain ⟨⟨plainAnswer, plainNext⟩, plainPerformed, plainRestRun⟩ :=
        exists_of_bind_eq_ok isPlain
      obtain ⟨plainLater, isPlainLater, made⟩ := exists_of_bind_eq_ok plainRestRun
      cases made
      obtain ⟨answer, next, performed, besideNext, sameProgress⟩ :=
        beside.perform sameTask plainPerformed
      obtain ⟨later, isLater, besideLater, sameRest⟩ := inductionHypothesis besideNext isPlainLater
      refine ⟨⟨answer :: later.answers, later.session⟩, ?_, besideLater, ?_⟩
      · simp only [List.map_cons, Session.run, step, performed, ok_bind, isLater]
        rfl
      · rw [List.map_cons, List.map_cons, sameProgress, sameRest]

end Session

/-! ## More conditions -/

namespace Discovery

variable {sources messages moreSources moreMessages : Exclusion}

theorem isRetained_iff {discovery : Discovery} :
    discovery.isRetained sources messages ↔
      ¬ sources.excludes discovery.finding.source.absolutePath.toList ∧
        ¬ messages.excludes discovery.messageCandidate ∧
        ¬ (discovery.isFromPage ∧ sources.excludes discovery.call.path) := by
  cases fromPage : discovery.isFromPage <;> simp [isRetained, fromPage, and_assoc]

theorem isRetained_of_extends (extendedSources : moreSources.Extends sources)
    (extendedMessages : moreMessages.Extends messages) {discovery : Discovery}
    (retained : discovery.isRetained moreSources moreMessages) :
    discovery.isRetained sources messages := by
  obtain ⟨bySource, byMessage, byPage⟩ := isRetained_iff.mp retained
  refine isRetained_iff.mpr ⟨?_, ?_, ?_⟩
  · exact fun excluded => bySource (extendedSources.excludes excluded)
  · exact fun excluded => byMessage (extendedMessages.excludes excluded)
  · rintro ⟨fromPage, excluded⟩
    exact byPage ⟨fromPage, extendedSources.excludes excluded⟩

theorem isRetained_of_addsNothing {discovery : Discovery}
    (idleSources : moreSources.AddsNothingFor sources discovery.sourceCandidates)
    (idleMessages : moreMessages.AddsNothingFor messages [discovery.messageCandidate])
    (retained : discovery.isRetained sources messages) :
    discovery.isRetained moreSources moreMessages := by
  obtain ⟨bySource, byMessage, byPage⟩ := isRetained_iff.mp retained
  refine isRetained_iff.mpr ⟨?_, ?_, ?_⟩
  · exact fun excluded => bySource (idleSources.excludes List.mem_cons_self excluded)
  · exact fun excluded => byMessage (idleMessages.excludes List.mem_cons_self excluded)
  · rintro ⟨fromPage, excluded⟩
    refine byPage ⟨fromPage, idleSources.excludes ?_ excluded⟩
    rw [sourceCandidates, if_pos fromPage]
    exact List.mem_cons_of_mem _ List.mem_cons_self

end Discovery

/-- What a session discovers in some tasks before anything is excluded. -/
abbrev Configuration.discoveriesIn (configuration : Configuration) (files : FileSystem)
    (tasks : List Task) : List Discovery :=
  configuration.discoveries files (configuration.callsOf tasks)

/-- What a session without exclusions goes through, one with exclusions goes through as well, and
retains of the discoveries those that are not excluded. -/
theorem exists_run_of_withoutExclusions {files : FileSystem} (configuration : Configuration)
    {tasks plainTasks : List Task} (same : List.Forall₂ Task.SameWork tasks plainTasks)
    {plain : History}
    (isPlain : Session.run files { configuration := configuration.withoutExclusions }
      (plainTasks.map .task) = .ok plain) :
    ∃ history, Session.run files { configuration } (tasks.map .task) = .ok history ∧
      history.answers.map Answer.progress? = plain.answers.map Answer.progress? ∧
      history.session.filesChecked = plain.session.filesChecked ∧
      history.session.errors =
        ((configuration.discoveriesIn files tasks).filter
          (Discovery.isRetained configuration.exclude configuration.excludeMessage)).map
            (·.finding) := by
  have beside : Session.GoesBeside { configuration := configuration.withoutExclusions }
      { configuration } := ⟨rfl, rfl⟩
  obtain ⟨history, isRun, last, sameProgress⟩ := beside.run same isPlain
  refine ⟨history, isRun, sameProgress, last.filesChecked.symm, ?_⟩
  have plainGoesOn := (Session.advances_run_tasks isPlain).goesOn
  have errors := (Session.advances_run_tasks isRun).errors
  rw [List.nil_append, List.nil_append] at errors
  refine errors.trans (configuration.flatMap_contribution_eq_filter files ?_)
  intro call member
  exact plainGoesOn call ((configuration.callsOf_perm same).mem_iff.mp member)

/-- Two sessions that differ only in that one has no exclusions of sources and messages are given
the same tasks, of which the assets may be checked in any order.  Where the one without exclusions
goes on to the end, their tasks go alike, with the same problems and numbers of files; it holds the
findings of all discoveries, and the other holds those of the discoveries that are not excluded, in
the order in which the calls are done.  More conditions leave a part of these, and conditions that
no candidate among the discoveries meets leave all of them. -/
theorem run_exclusions (files : FileSystem) (configuration : Configuration)
    (tasks plainTasks : List Task) (same : List.Forall₂ Task.SameWork tasks plainTasks)
    (plain : History)
    (isPlain : Session.run files { configuration := configuration.withoutExclusions }
      (plainTasks.map .task) = .ok plain) :
    (configuration.callsOf tasks).Perm (configuration.callsOf plainTasks) ∧
    plain.session.errors = (configuration.discoveriesIn files plainTasks).map (·.finding) ∧
    ∃ history, Session.run files { configuration } (tasks.map .task) = .ok history ∧
      history.answers.map Answer.progress? = plain.answers.map Answer.progress? ∧
      history.session.filesChecked = plain.session.filesChecked ∧
      history.session.errors =
        ((configuration.discoveriesIn files tasks).filter
          (Discovery.isRetained configuration.exclude configuration.excludeMessage)).map
            (·.finding) ∧
      ∀ sources messages : Exclusion, sources.Extends configuration.exclude →
        messages.Extends configuration.excludeMessage →
          let more : Configuration :=
            { configuration with exclude := sources, excludeMessage := messages }
          ∀ moreTasks, List.Forall₂ Task.SameWork moreTasks plainTasks →
            ∃ fewer, Session.run files { configuration := more } (moreTasks.map .task) =
                .ok fewer ∧
              fewer.session.errors.Subperm history.session.errors ∧
              (moreTasks = tasks →
                fewer.session.errors.Sublist history.session.errors) ∧
              ((∀ discovery ∈ configuration.discoveriesIn files tasks,
                  sources.AddsNothingFor configuration.exclude discovery.sourceCandidates ∧
                  messages.AddsNothingFor configuration.excludeMessage
                    [discovery.messageCandidate]) →
                fewer.session.errors.Perm history.session.errors ∧
                (moreTasks = tasks →
                  fewer.session.errors = history.session.errors)) := by
  have plainErrors := (Session.advances_run_tasks isPlain).errors
  obtain ⟨history, isRun, sameProgress, sameCount, errors⟩ :=
    exists_run_of_withoutExclusions configuration same isPlain
  refine ⟨configuration.callsOf_perm same, ?_, history, isRun, sameProgress, sameCount, errors, ?_⟩
  · rw [List.nil_append, List.nil_append] at plainErrors
    exact plainErrors.trans (configuration.flatMap_contribution_withoutExclusions files _)
  · intro sources messages extendedSources extendedMessages more moreTasks sameMore
    obtain ⟨fewer, isFewer, _, _, filtered⟩ :=
      exists_run_of_withoutExclusions more sameMore isPlain
    have fewerErrors : fewer.session.errors =
        ((configuration.discoveriesIn files moreTasks).filter
          (Discovery.isRetained sources messages)).map (·.finding) := filtered
    have samePerm : (configuration.discoveriesIn files moreTasks).Perm
        (configuration.discoveriesIn files tasks) :=
      ((configuration.callsOf_perm sameMore).trans
        (configuration.callsOf_perm same).symm).flatMap_right _
    have partOf : (((configuration.discoveriesIn files tasks).filter
        (Discovery.isRetained sources messages)).map (·.finding)).Sublist
          history.session.errors := by
      rw [errors]
      refine List.Sublist.map _ (List.monotone_filter_right _ ?_)
      intro discovery retained
      exact Discovery.isRetained_of_extends extendedSources extendedMessages retained
    have reordered : fewer.session.errors.Perm
        (((configuration.discoveriesIn files tasks).filter
          (Discovery.isRetained sources messages)).map (·.finding)) := by
      rw [fewerErrors]
      exact (samePerm.filter _).map _
    refine ⟨fewer, isFewer, reordered.subperm.trans partOf.subperm, ?_, ?_⟩
    · rintro rfl
      rwa [fewerErrors]
    · intro idle
      have whole : (configuration.discoveriesIn files tasks).filter
          (Discovery.isRetained sources messages) =
            (configuration.discoveriesIn files tasks).filter
              (Discovery.isRetained configuration.exclude configuration.excludeMessage) := by
        refine List.filter_congr ?_
        intro discovery member
        rw [Bool.eq_iff_iff]
        constructor
        · exact Discovery.isRetained_of_extends extendedSources extendedMessages
        · exact Discovery.isRetained_of_addsNothing (idle discovery member).1
            (idle discovery member).2
      rw [whole, ← errors] at reordered
      refine ⟨reordered, ?_⟩
      rintro rfl
      rw [fewerErrors, whole, errors]

/-- A folder that holds one page, with a script that `es5` cannot read. -/
def onePage : FileSystem where
  top := .folder
    [("p.html".toList, .file (Text.Utf8.encode "<script>let a</script>".toList))]

def checkOnePage : List Task := [.check { path := "/p.html".toList }]

/-- A literal beginning that neither the source nor the path of a page has leaves the error
that the page brings. -/
theorem run_exclusions_otherBeginning :
    ∃ plain fewer,
      Session.run onePage { configuration := { edition := .es5 } } (checkOnePage.map .task) =
        .ok plain ∧
      Session.run onePage
        { configuration := { edition := .es5, exclude := ⟨[.beginsWith "/vendor".toList]⟩ } }
        (checkOnePage.map .task) = .ok fewer ∧
      plain.session.errors.map (·.message) =
        ["Unexpected token: `let` declaration requires es2015"] ∧
      fewer.session.errors = plain.session.errors := by
  have shown : (Session.run onePage { configuration := { edition := .es5 } }
      (checkOnePage.map .task)).toOption.map (fun plain => plain.session.errors.map (·.message)) =
        some ["Unexpected token: `let` declaration requires es2015"] := by
    decide +kernel
  obtain ⟨plain, isPlain, messages⟩ := exists_of_map_toOption_eq_some shown
  have candidates : (Configuration.discoveriesIn { edition := .es5 } onePage
      checkOnePage).flatMap Discovery.sourceCandidates =
        ["/p.html".toList, "/p.html".toList] := by
    decide +kernel
  have same : List.Forall₂ Task.SameWork checkOnePage checkOnePage := .cons (.check _) .nil
  obtain ⟨-, -, history, isRun, -, -, -, more⟩ :=
    run_exclusions onePage { edition := .es5 } checkOnePage checkOnePage same plain isPlain
  obtain ⟨fewer, isFewer, -, -, idle⟩ := more ⟨[.beginsWith "/vendor".toList]⟩ {}
    (by simp [Exclusion.Extends]) (by simp [Exclusion.Extends]) checkOnePage same
  obtain rfl : history = plain := Except.ok.inj (isRun.symm.trans isPlain)
  refine ⟨history, fewer, isRun, isFewer, messages, (idle ?_).2 rfl⟩
  intro discovery member
  refine ⟨?_, by simp [Exclusion.AddsNothingFor]⟩
  intro condition conditionMember
  rw [List.mem_singleton.mp conditionMember]
  refine Or.inr ?_
  intro candidate candidateMember
  have listed : candidate ∈ ["/p.html".toList, "/p.html".toList] := by
    rw [← candidates]
    exact List.mem_flatMap.mpr ⟨discovery, member, candidateMember⟩
  have isPath : candidate = "/p.html".toList := by
    simpa using listed
  rw [isPath]
  decide +kernel

/-- A folder that holds one page, and beside it a map that leads to the last source line of
32 bits. -/
def pageBesideLastLine : FileSystem where
  top := .folder [
    ("p.html".toList, .file (Text.Utf8.encode "<script>let a</script>".toList)),
    ("p.html.map".toList, .file (Text.Utf8.encode
      "\x7b\"sources\":[\"a.ts\"],\"names\":[],\"mappings\":\"AADA\"\x7d".toList))]

/-- Without exclusions the errors of two assets can come in another order than with one that
excludes neither; and a page that stops a session is passed over if it is excluded. -/
theorem run_exclusions_not_in_order :
    (Session.run scriptPair { configuration := { edition := .es5 } }
        [.task (.checkAssets ['/'] ["a.js".toList, "b.js".toList] .inTurn)]).toOption.map
      (fun plain => plain.session.errors.map (·.source.absolutePath)) =
        some ["/a.js", "/b.js"] ∧
    (Session.run scriptPair
        { configuration := { edition := .es5, exclude := ⟨[.beginsWith "/vendor".toList]⟩ } }
        [.task (.checkAssets ['/'] ["a.js".toList, "b.js".toList] .backwards)]).toOption.map
      (fun history => history.session.errors.map (·.source.absolutePath)) =
        some ["/b.js", "/a.js"] ∧
    (Session.run pageBesideLastLine { configuration := { edition := .es5 } }
        (checkOnePage.map .task)).toOption.isNone ∧
    (Session.run pageBesideLastLine
        { configuration := { edition := .es5, exclude := ⟨[.beginsWith "/p".toList]⟩ } }
        (checkOnePage.map .task)).toOption.isSome := by
  refine ⟨?_, ?_, ?_, ?_⟩ <;> decide +kernel

end EditionGuard
