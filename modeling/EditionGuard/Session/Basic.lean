import EditionGuard.Session.Configuration

/-!
# Sessions

A session checks files one after the other and keeps what is found, in order, until it is
taken.
-/

namespace EditionGuard

structure Session where
  configuration : Configuration
  errors : List Incompatibility := []
  filesChecked : Nat := 0
  log : List LogEvent := []

namespace Session

def ofOptions (workingDirectory : List Char) (options : Options) :
    Logged (Except Problem Session) :=
  let configured := Configuration.ofOptions workingDirectory options
  { value := configured.value.map fun configuration => { configuration }
    events := configured.events }

def note (session : Session) (events : List LogEvent) : Session :=
  { session with log := session.log ++ events }

def record (session : Session) (outcome : CheckOutcome) : Session :=
  { session with
    errors := session.errors ++ (outcome.result.toOption).getD []
    filesChecked := session.filesChecked + if outcome.counted then 1 else 0
    log := session.log ++ outcome.events }

/-- Checks the file at a path, or the code that is given in its stead. Tells the problem if
the file cannot be read. -/
def check (session : Session) (files : FileSystem) (path : List Char)
    (code : Option (List Char)) : Except Overflow (Session × Option Problem) := do
  let outcome ← session.configuration.check files path code
  return (session.record outcome, outcome.problem?)

def takeErrors (session : Session) : List Incompatibility × Session :=
  (session.errors, { session with errors := [] })

def reportSettings (session : Session) : Report.Settings where
  excludeFields := session.configuration.excludeFields
  verbosity := session.configuration.verbosity
  colour := session.configuration.view.colour
  filesChecked := session.filesChecked

def printReport (session : Session) (sink : Report.Sink) :
    Option Report.Sink × Option Problem :=
  Report.print sink session.errors session.configuration.edition session.reportSettings

def withExclude (session : Session) (exclusion : Exclusion) : Session :=
  { session with configuration := { session.configuration with exclude := exclusion } }

def withExcludeOutput (session : Session) (exclusion : Exclusion) : Session :=
  { session with configuration := { session.configuration with excludeOutput := exclusion } }

def withExcludeMessage (session : Session) (exclusion : Exclusion) : Session :=
  { session with configuration := { session.configuration with excludeMessage := exclusion } }

end Session

end EditionGuard
