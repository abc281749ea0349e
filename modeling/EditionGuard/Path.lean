import EditionGuard.Text.Basic

/-!
# Paths

A path is a text; what it means is its list of components. Repeated and trailing slashes
and dots in the middle are no components. Joining and stripping keep the text of what they
do not touch.
-/

namespace EditionGuard.Path

/-- A step of a path. -/
inductive Component where
  | root
  | current
  | parent
  | normal (name : List Char)
deriving DecidableEq, Repr, Inhabited

def isAbsolute (path : List Char) : Bool := path.head? == some '/'

def Component.ofName? : List Char → Option Component
  | [] => none
  | ['.'] => none
  | ['.', '.'] => some .parent
  | name => some (.normal name)

def names (path : List Char) : List (List Char) := Text.splitAt '/' path

/-- The component that only the start of a path can hold. -/
def leading : List Char → List Component
  | '/' :: _ => [.root]
  | ['.'] => [.current]
  | '.' :: '/' :: _ => [.current]
  | _ => []

/-- The parts of a path. Repeated and final slashes make none, nor does a dot behind another
part. -/
def components (path : List Char) : List Component :=
  leading path ++ (names path).filterMap Component.ofName?

def Component.text : Component → List Char
  | .root => ['/']
  | .current => ['.']
  | .parent => ['.', '.']
  | .normal name => name

/-- A path put behind another; an absolute path replaces it. -/
def join (base path : List Char) : List Char :=
  if isAbsolute path then path
  else match base.getLast? with
    | none => path
    | some '/' => base ++ path
    | some _ => base ++ '/' :: path

def ofComponents (parts : List Component) : List Char :=
  parts.foldl (fun path part => join path part.text) []

/-- Takes components away from the front of a text, and gives the text that follows the
last of them. `atStart` tells whether the text is the start of its path. -/
def dropComponents : Nat → Bool → List Char → List Char
  | 0, _, text => text
  | count + 1, true, text =>
    match leading text with
    | [] => dropNames (count + 1) text
    | _ :: _ => dropNames count (text.drop 1)
  | count + 1, false, text => dropNames (count + 1) text
where
  /-- Takes names away, and whatever stands before each that is no component. -/
  dropNames : Nat → List Char → List Char
    | count, text => (go (names text) count).getD []
  go : List (List Char) → Nat → Option (List Char)
    | rest, 0 => some (List.intercalate ['/'] rest)
    | [], _ + 1 => none
    | name :: rest, count + 1 =>
      match Component.ofName? name with
      | some _ => go rest count
      | none => go rest (count + 1)

def trimLeft (text : List Char) : List Char :=
  List.intercalate ['/'] ((names text).dropWhile fun name => (Component.ofName? name).isNone)

/-- The text without what stands after its last name; the component at the start of a path
is kept. -/
def trimRight (atStart : Bool) (text : List Char) : List Char :=
  let kept := if atStart then (leading text).length else 0
  let body := text.drop kept
  let trimmed := List.intercalate ['/']
    ((names body).reverse.dropWhile fun name => (Component.ofName? name).isNone).reverse
  text.take kept ++ trimmed

/-- What follows a base in a path; nothing unless the components of the base are the first
of the path's. -/
def stripBase? (path base : List Char) : Option (List Char) :=
  let wanted := components base
  if (components path).take wanted.length = wanted then
    if wanted.isEmpty then some (trimRight true path)
    else some (trimRight false (trimLeft (dropComponents wanted.length true path)))
  else none

def fileName? (path : List Char) : Option (List Char) :=
  match (components path).getLast? with
  | some (.normal name) => some name
  | _ => none

/-- What follows the last dot of a file name; a dot at its start does not count. -/
def extension? (path : List Char) : Option (List Char) :=
  (fileName? path).bind fun name =>
    let ending := name.reverse.takeWhile (· != '.')
    if ending.length + 1 < name.length then some ending.reverse else none

/-- The path without its last component; nothing for an empty path and for the root. -/
def parent? (path : List Char) : Option (List Char) :=
  match (components path).getLast? with
  | none | some .root => none
  | some .current => some []
  | some _ =>
    let trimmed := trimRight true path
    let rest := (trimmed.reverse.dropWhile (· != '/')).reverse
    some (trimRight true rest)

/-- Takes a component onto a clean list of components, kept last first. A parent takes back
whatever came last, except a root, and is kept where there is nothing to take back. -/
def cleanStep (taken : List Component) : Component → List Component
  | .current => taken
  | .parent =>
    match taken with
    | [] => [.parent]
    | [.root] => [.parent, .root]
    | _ :: rest => rest
  | part => part :: taken

/-- The components of a path with dots and parents resolved by their text alone. -/
def cleanComponents (path : List Char) : List Component :=
  ((components path).foldl cleanStep []).reverse

/-- The path without dots and without parts that are left again. -/
def clean (path : List Char) : List Char := ofComponents (cleanComponents path)

/-- How a path is shown: without its base if it lies below it, and with slashes only. -/
def display (path base : List Char) : List Char :=
  ((stripBase? path base).getD path).map fun char => if char == '\\' then '/' else char

end EditionGuard.Path
