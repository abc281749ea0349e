import EditionGuard.Session.Emitted

/-!
# Histories of sessions

What a user may do with a session, step by step, and what the session answers.  Work that is
given to a session consists of single calls, and each call contributes findings of its own,
whatever has happened before.  A call may also stop the session for good.
-/

namespace EditionGuard

/-- A check of the file at a path, or of code that is given in its stead. -/
structure Call where
  path : List Char
  code : Option (List Char) := none
deriving DecidableEq, Repr, Inhabited

namespace Call

def endings : List String := [".html", ".js", ".mjs", ".cjs", ".jsx"]

/-- Whether a call looks at a file: no code is given, and the path has one of the endings. -/
def LooksAtFile (call : Call) : Prop :=
  call.code = none ∧ ∃ ending ∈ endings, ending.toList <:+ call.path

instance (call : Call) : Decidable call.LooksAtFile :=
  inferInstanceAs
    (Decidable (call.code = none ∧ ∃ ending ∈ endings, ending.toList <:+ call.path))

end Call

/-- Work that is given to a session. -/
inductive Task where
  | check (call : Call)
  /-- The check of the assets that a build has emitted into a folder. -/
  | checkAssets (folder : List Char) (assets : List (List Char)) (schedule : Schedule)
deriving Inhabited

/-- What a user may do with a session. -/
inductive Step where
  | task (work : Task)
  | errors
  | takeErrors
  | printReport (sink : Report.Sink)
deriving Inhabited

/-- What a session answers to a step. -/
inductive Answer where
  /-- After a task: the problem if a single check met one, the errors that are held, and the
  number of files that were looked at so far. -/
  | performed (problem : Option Problem) (errors : List Incompatibility) (filesChecked : Nat)
  | held (errors : List Incompatibility)
  | taken (errors : List Incompatibility)
  | printed (sink : Option Report.Sink) (problem : Option Problem)
deriving DecidableEq, Repr, Inhabited

namespace Answer

def takenErrors : Answer → List Incompatibility
  | .taken errors => errors
  | _ => []

/-- How a task went: its problem, and the number of files so far. -/
def progress? : Answer → Option (Option Problem × Nat)
  | .performed problem _ filesChecked => some (problem, filesChecked)
  | _ => none

end Answer

/-- The answers to some steps, and the session behind them. -/
structure History where
  answers : List Answer
  session : Session

namespace Session

def perform (files : FileSystem) (session : Session) :
    Task → Except Overflow (Answer × Session)
  | .check call => do
    let (next, problem) ← session.check files call.path call.code
    return (.performed problem next.errors next.filesChecked, next)
  | .checkAssets folder assets schedule => do
    let next ← session.checkAssets files schedule folder assets
    return (.performed none next.errors next.filesChecked, next)

def step (files : FileSystem) (session : Session) : Step → Except Overflow (Answer × Session)
  | .task work => session.perform files work
  | .errors => .ok (.held session.errors, session)
  | .takeErrors =>
    let (errors, next) := session.takeErrors
    .ok (.taken errors, next)
  | .printReport sink =>
    let (sink, problem) := session.printReport sink
    .ok (.printed sink problem, session)

/-- Takes steps in order, up to the first that stops. -/
def run (files : FileSystem) (session : Session) : List Step → Except Overflow History
  | [] => .ok ⟨[], session⟩
  | step :: rest => do
    let (answer, next) ← session.step files step
    let history ← next.run files rest
    return ⟨answer :: history.answers, history.session⟩

end Session

/-- The paths at which assets are checked: those that are not excluded as outputs and have the
ending of a page or a script. -/
def Configuration.wantedPaths (configuration : Configuration) (folder : List Char)
    (assets : List (List Char)) : List (List Char) :=
  (assets.map (Session.assetPath folder)).filter fun path =>
    !configuration.excludeOutput.excludes path && FileKind.isChecked path

/-- The calls that a task consists of, in the order in which they are done. -/
def Task.calls (configuration : Configuration) : Task → List Call
  | .check call => [call]
  | .checkAssets folder assets schedule =>
    (schedule.order (configuration.wantedPaths folder assets)).map fun path => { path }

def Step.calls (configuration : Configuration) : Step → List Call
  | .task work => work.calls configuration
  | _ => []

namespace Configuration

def Stops (configuration : Configuration) (files : FileSystem) (call : Call) : Prop :=
  ∃ stop, configuration.check files call.path call.code = .error stop

/-- What a call adds to the errors of a session.  One that meets a problem adds nothing. -/
def contribution (configuration : Configuration) (files : FileSystem) (call : Call) :
    List Incompatibility :=
  match configuration.check files call.path call.code with
  | .ok outcome => (outcome.result.toOption).getD []
  | .error _ => []

end Configuration

end EditionGuard
