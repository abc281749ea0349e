import EditionGuard.Browser.Support
import EditionGuard.Problem

/-!
# Targets

A target names the browsers that code is meant for. It stands for the newest edition that
they all take; so does a list of targets.
-/

namespace EditionGuard

inductive Target where
  /-- All browsers that know module scripts. -/
  | moduleScripts
  /-- A release of a browser, and those after it. -/
  | since (browser : Browser) (release : Browser.Release)
  /-- The releases of a browser after the given one. -/
  | after (browser : Browser) (release : Browser.Release)
deriving DecidableEq, Repr, Inhabited

namespace Target

/-- The release that a text is the number of: digits, and after a point more digits. -/
def releaseOf? (text : List Char) : Option Browser.Release :=
  let whole := text.takeWhile Char.isDigit
  let places := match text.dropWhile Char.isDigit with
    | [] => some []
    | '.' :: rest => if rest.isEmpty then none else some rest
    | _ => none
  places.bind fun places =>
    if whole.isEmpty then none
    else (Edition.digitsValue? (whole ++ places)).map fun value =>
      .ofDecimal value places.length

/-- Takes the relation in front of a number: whether the number itself is left out, and the
text of the number. -/
def relation (text : List Char) : Bool × List Char :=
  match text with
  | '>' :: '=' :: rest => (false, rest)
  | '>' :: rest => (true, rest)
  | rest => (false, rest)

def isNameChar (char : Char) : Bool := char.isAlpha || char == '_'

/-- The target of a text; nothing if it is none that is known. White space around it, and
the case of letters, do not matter. -/
def ofText? (text : String) : Option Target :=
  let query := Text.lowerAscii (Text.trim text.toList)
  if query = "fully supports es6-module".toList ∨ query = "supports es6-module".toList then
    some .moduleScripts
  else
    let name := query.takeWhile isNameChar
    let (exclusive, rest) :=
      relation ((query.dropWhile isNameChar).dropWhile Text.isWhiteSpace)
    (releaseOf? (rest.dropWhile Text.isWhiteSpace)).bind fun release =>
      (Browser.ofName? (String.ofList name)).map fun browser =>
        if exclusive then .after browser release else .since browser release

/-- The newest edition that all of a target take. -/
def edition : Target → Edition
  | .moduleScripts => Browser.moduleEdition
  | .since browser release => browser.edition release
  | .after browser release => browser.edition (browser.nextRelease release)

def resolve (text : String) : Except Problem Edition :=
  match ofText? text with
  | some target => .ok target.edition
  | none => .error (.unknownTarget text)

/-- The newest edition that all of some targets take. The first target that is not known
is refused. -/
def resolveAll (texts : List String) : Except Problem Edition :=
  (texts.mapM resolve).bind fun
    | [] => .error .missingTarget
    | first :: rest => .ok (rest.foldl Edition.older first)

end Target

end EditionGuard
