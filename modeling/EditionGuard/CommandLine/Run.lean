import EditionGuard.CommandLine.LogFilter
import EditionGuard.Session.Emitted

/-!
# Running

What the program prints and how it ends, by its arguments and the files that it finds.
-/

namespace EditionGuard.CommandLine

structure RunResult where
  exitCode : Nat
  stdout : List Char := []
  stderr : List Char := []
deriving DecidableEq, Repr, Inhabited

def helpText : List Char :=
  "Check build output for syntax newer than the target ECMAScript version

Usage: check-syntax [OPTIONS] <OUTPUT_DIR>

Arguments:
  <OUTPUT_DIR>  Build output directory to scan

Options:
      --root <DIR>               Project root used to resolve and display source paths (default:
                                 cwd)
      --config <FILE>            JSON options file; flags given on the command line override it
      --ecma-version <VERSION>   Highest allowed version, e.g. es2017, 2017, 8 or latest
      --target <QUERY>           Browserslist-style query, e.g. \"chrome >= 61\". Repeatable
      --exclude <REGEX>          Ignore errors whose source path matches the pattern. Repeatable
      --exclude-output <REGEX>   Skip emitted files whose path matches the pattern. Repeatable
      --exclude-message <REGEX>  Ignore errors whose message matches the pattern. Repeatable
      --exclude-log <FIELD>      Hide a report field: source, output, reason or code. Repeatable
      --no-color                 Disable ANSI colors in the report
  -v, --verbose...               Increase logging verbosity
  -q, --quiet...                 Decrease logging verbosity
  -h, --help                     Print help
  -V, --version                  Print version
".toList

def usageText : List Char :=
  "Usage: check-syntax [OPTIONS] <OUTPUT_DIR>

For more information, try '--help'.
".toList

def versionText : List Char := "check-syntax 0.1.0\n".toList

/-- The options of a file overridden and extended by arguments. -/
def Arguments.options (arguments : Arguments) (base : Options) : Options where
  targets :=
    if arguments.targets.isEmpty then base.targets else some arguments.targets
  ecmaVersion := arguments.edition.or base.ecmaVersion
  exclude := base.exclude ++ arguments.exclude
  excludeOutput := base.excludeOutput ++ arguments.excludeOutput
  excludeErrorMessage := base.excludeErrorMessage ++ arguments.excludeMessage
  excludeErrorLogs := base.excludeErrorLogs ++ arguments.excludeLog
  rootPath := arguments.root.or base.rootPath
  verbosity :=
    if arguments.threshold < LogLevel.warning.rank then .quiet
    else if LogLevel.warning.rank < arguments.threshold then .verbose
    else base.verbosity
  color := base.color && !arguments.noColor

/-- The cause of a problem that has one besides its own message. -/
def causeOf : Problem → Option String
  | .unreadable _ fault => some fault.message
  | _ => none

/-- What ends a run: a problem, and the file of options if it is about that. -/
structure Failure where
  problem : Problem
  config : Option (List Char) := none
deriving DecidableEq, Repr, Inhabited

def Failure.message (failure : Failure) : List Char :=
  let context := failure.config.map fun path =>
    "failed to load ".toList ++ path ++ ": ".toList
  let cause := (causeOf failure.problem).map fun cause => ": ".toList ++ cause.toList
  context.getD [] ++ failure.problem.message.toList ++ cause.getD []

def optionsFor (files : FileSystem) (arguments : Arguments) : Except Failure Options :=
  match arguments.config with
  | none => .ok (arguments.options {})
  | some path =>
    match Options.ofFile files path with
    | .ok base => .ok (arguments.options base)
    | .error problem => .error ⟨problem, some path⟩

/-- What has happened, the text of the report, and the failure of a run. -/
structure Course where
  events : List LogEvent := []
  report : List Char := []
  failure : Option Failure := none
deriving DecidableEq, Repr, Inhabited

/-- The course of a run whose session has been opened, or could not be: its report is printed. -/
def Course.ofOpened (opened : Logged (Except Problem Session)) : Course :=
  match opened.value with
  | .error problem => { events := opened.events, failure := some ⟨problem, none⟩ }
  | .ok session =>
    let (sink, problem) := session.printReport {}
    { events := opened.events ++ session.log
      report := (sink.map Report.Sink.written).getD []
      failure := problem.map fun problem => ⟨problem, none⟩ }

def course (files : FileSystem) (schedule : Schedule) (arguments : Arguments) :
    Except Overflow Course :=
  match optionsFor files arguments with
  | .error failure => .ok { failure := some failure }
  | .ok options => do
    return .ofOpened (← Session.ofFolder files schedule options (arguments.folder.getD []))

def logText (threshold : Nat) (events : List LogEvent) : List Char :=
  (events.filter fun event => event.level.rank ≤ threshold).flatMap fun event =>
    event.line ++ ['\n']

def Course.result (course : Course) (threshold : Nat) : RunResult :=
  let log := logText threshold course.events
  match course.failure with
  | none => { exitCode := 0, stdout := course.report, stderr := log }
  | some failure =>
    { exitCode := 1
      stdout := course.report
      stderr := log ++ failure.message ++ ['\n'] }

/-- What a run leaves behind. `directives` says which events are shown, if it is given. -/
def run (files : FileSystem) (schedule : Schedule) (directives : Option (List Char))
    (words : List (List Char)) : Except Overflow RunResult :=
  match Arguments.read words with
  | .error .wrongUsage => .ok { exitCode := 2, stderr := usageText }
  | .error .help => .ok { exitCode := 0, stdout := helpText }
  | .error .version => .ok { exitCode := 0, stdout := versionText }
  | .ok arguments => do
    return (← course files schedule arguments).result (thresholdFor arguments directives)

end EditionGuard.CommandLine
