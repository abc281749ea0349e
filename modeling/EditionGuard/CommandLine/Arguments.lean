import EditionGuard.Edition
import EditionGuard.Report.Print

/-!
# Arguments

What is written behind the name of the program. Arguments are read from left to right; the
first that is wrong ends the reading, and so does a wish for help or for the version.
-/

namespace EditionGuard.CommandLine

structure Arguments where
  folder : Option (List Char) := none
  root : Option String := none
  config : Option (List Char) := none
  edition : Option Edition := none
  targets : List String := []
  exclude : List String := []
  excludeOutput : List String := []
  excludeMessage : List String := []
  excludeLog : List Report.Field := []
  noColor : Bool := false
  /-- How many times more was asked for. -/
  verbose : Nat := 0
  /-- How many times less was asked for. -/
  quiet : Nat := 0
deriving DecidableEq, Repr, Inhabited

/-- Why reading ends without arguments to run by. -/
inductive Stop where
  | wrongUsage
  | help
  | version
deriving DecidableEq, Repr, Inhabited

inductive ValueOption where
  | root
  | config
  | edition
  | target
  | exclude
  | excludeOutput
  | excludeMessage
  | excludeLog
deriving DecidableEq, Repr, Inhabited

def ValueOption.ofName? : String → Option ValueOption
  | "root" => some .root
  | "config" => some .config
  | "ecma-version" => some .edition
  | "target" => some .target
  | "exclude" => some .exclude
  | "exclude-output" => some .excludeOutput
  | "exclude-message" => some .excludeMessage
  | "exclude-log" => some .excludeLog
  | _ => none

inductive Flag where
  | noColor
  | verbose
  | quiet
  | help
  | version
deriving DecidableEq, Repr, Inhabited

def Flag.ofName? : String → Option Flag
  | "no-color" => some .noColor
  | "verbose" => some .verbose
  | "quiet" => some .quiet
  | "help" => some .help
  | "version" => some .version
  | _ => none

def Flag.ofLetter? : Char → Option Flag
  | 'v' => some .verbose
  | 'q' => some .quiet
  | 'h' => some .help
  | 'V' => some .version
  | _ => none

namespace Arguments

def once {α : Type} (given : Option α) (value : Option α) : Except Stop (Option α) :=
  match given, value with
  | none, some value => .ok (some value)
  | _, _ => .error .wrongUsage

def path? (value : List Char) : Option (List Char) :=
  if value.isEmpty then none else some value

def withValue (arguments : Arguments) (option : ValueOption) (value : List Char) :
    Except Stop Arguments :=
  let text := String.ofList value
  match option with
  | .root => do
    return { arguments with root := ← once arguments.root ((path? value).map String.ofList) }
  | .config => do return { arguments with config := ← once arguments.config (path? value) }
  | .edition => do
    return { arguments with edition := ← once arguments.edition (Edition.ofText? text) }
  | .target => .ok { arguments with targets := arguments.targets ++ [text] }
  | .exclude => .ok { arguments with exclude := arguments.exclude ++ [text] }
  | .excludeOutput => .ok { arguments with excludeOutput := arguments.excludeOutput ++ [text] }
  | .excludeMessage =>
    .ok { arguments with excludeMessage := arguments.excludeMessage ++ [text] }
  | .excludeLog =>
    match Report.Field.ofKey? text with
    | some field => .ok { arguments with excludeLog := arguments.excludeLog ++ [field] }
    | none => .error .wrongUsage

/-- Takes a flag. Only the flags for more and less may be repeated. -/
def withFlag (arguments : Arguments) : Flag → Except Stop Arguments
  | .noColor =>
    if arguments.noColor then .error .wrongUsage else .ok { arguments with noColor := true }
  | .verbose => .ok { arguments with verbose := arguments.verbose + 1 }
  | .quiet => .ok { arguments with quiet := arguments.quiet + 1 }
  | .help => .error .help
  | .version => .error .version

/-- Takes the letters of a group of flags. -/
def withLetters (arguments : Arguments) : List Char → Except Stop Arguments
  | [] => .ok arguments
  | letter :: rest =>
    match Flag.ofLetter? letter with
    | some flag => (arguments.withFlag flag).bind (·.withLetters rest)
    | none => .error .wrongUsage

def withFolder (arguments : Arguments) (value : List Char) : Except Stop Arguments := do
  return { arguments with folder := ← once arguments.folder (path? value) }

/-- Takes arguments none of which is an option. -/
def withFolders (arguments : Arguments) : List (List Char) → Except Stop Arguments
  | [] => .ok arguments
  | value :: rest => (arguments.withFolder value).bind (·.withFolders rest)

def isOption : List Char → Bool
  | '-' :: _ :: _ => true
  | _ => false

/-- Takes arguments from left to right. Two dashes alone make all that follows no options. -/
def readAll (arguments : Arguments) : List (List Char) → Except Stop Arguments
  | [] => .ok arguments
  | argument :: rest =>
    match argument with
    | ['-', '-'] => arguments.withFolders rest
    | '-' :: '-' :: written =>
      let name := String.ofList (written.takeWhile (· != '='))
      match ValueOption.ofName? name, written.dropWhile (· != '='), rest with
      | some option, _ :: value, rest =>
        (arguments.withValue option value).bind (·.readAll rest)
      | some option, [], value :: rest =>
        if isOption value then .error .wrongUsage
        else (arguments.withValue option value).bind (·.readAll rest)
      | none, [], rest =>
        match Flag.ofName? name with
        | some flag => (arguments.withFlag flag).bind (·.readAll rest)
        | none => .error .wrongUsage
      | _, _, _ => .error .wrongUsage
    | '-' :: letter :: letters =>
      (arguments.withLetters (letter :: letters)).bind (·.readAll rest)
    | value => (arguments.withFolder value).bind (·.readAll rest)

/-- The arguments of a list of words. A folder is needed, and more and less must not both be
asked for. -/
def read (words : List (List Char)) : Except Stop Arguments :=
  (readAll {} words).bind fun arguments =>
    if arguments.folder.isNone ∨ (0 < arguments.verbose ∧ 0 < arguments.quiet) then
      .error .wrongUsage
    else .ok arguments

end Arguments

end EditionGuard.CommandLine
