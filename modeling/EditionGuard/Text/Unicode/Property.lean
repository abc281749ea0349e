import EditionGuard.Text.Basic
import EditionGuard.Text.Blank
import EditionGuard.Text.Digit
import EditionGuard.Text.Ranges
import EditionGuard.Text.Unicode.CategoryTable
import EditionGuard.Text.Unicode.PropertyTable
import EditionGuard.Text.Unicode.ScriptTable

/-!
# Properties of characters

General categories, scripts, and some properties that are made of them, with the names by
which they are asked for.
-/

namespace EditionGuard.Text.Unicode

/-- The runs of a table whose codes are `width` letters long and begin with a capital
letter. `point` and `code` are what has been read of an entry. -/
def readRuns (width : Nat) : Nat → List Char → List Char → List (Nat × String)
  | _, _, [] => []
  | point, [], char :: rest =>
    match if char.isUpper then none else hexDigit? char with
    | some digit => readRuns width (point * 16 + digit) [] rest
    | none => readRuns width point [char] rest
  | point, code, char :: rest =>
    if code.length + 1 = width then
      (point, String.ofList (code ++ [char])) :: readRuns width 0 [] rest
    else readRuns width point (code ++ [char]) rest

/-- The code of the run that holds a code point. -/
def codeAt (point : Nat) : String → List (Nat × String) → String
  | code, [] => code
  | code, (first, next) :: rest => if point < first then code else codeAt point next rest

def categoryRuns : List (Nat × String) :=
  categoryTable.flatMap fun line => readRuns 2 0 [] line.toList

/-- Where the script changes, and to what. -/
def scriptRuns : List (Nat × String) :=
  scriptTable.flatMap fun line => readRuns 4 0 [] line.toList

def category (point : Nat) : String := codeAt point "Cn" categoryRuns

def script (point : Nat) : String := codeAt point "Zzzz" scriptRuns

/-- A set of characters that has a name. -/
inductive Property where
  | any
  | ascii
  /-- The characters of some general categories. -/
  | categories (codes : List String)
  | script (code : String)
  | alphabetic
  | lowercase
  | uppercase
  | whiteSpace
  | hexDigit
  | joinControl
  | emoji
deriving DecidableEq, Repr, Inhabited

def Property.holds (point : Nat) : Property → Bool
  | .any => true
  | .ascii => point < 0x80
  | .categories codes => codes.contains (category point)
  | .script code => Unicode.script point == code
  | .alphabetic =>
    ["Lu", "Ll", "Lt", "Lm", "Lo", "Nl"].contains (category point) ||
      inChanges otherAlphabetic point
  | .lowercase => category point == "Ll" || inChanges otherLowercase point
  | .uppercase => category point == "Lu" || inChanges otherUppercase point
  | .whiteSpace => isWhiteSpace (Char.ofNat point)
  | .hexDigit =>
    (0x30 ≤ point && point ≤ 0x39) || (0x41 ≤ point && point ≤ 0x46) ||
      (0x61 ≤ point && point ≤ 0x66)
  | .joinControl => point == 0x200C || point == 0x200D
  | .emoji => inChanges Unicode.emoji point

def isWord (point : Nat) : Bool :=
  Property.alphabetic.holds point ||
    (Property.categories ["Mn", "Mc", "Me", "Nd", "Pc"]).holds point ||
    Property.joinControl.holds point

/-- Whether a code point extends the character before it. -/
def extendsCharacter (point : Nat) : Bool :=
  (Property.categories ["Mn", "Me"]).holds point || inChanges otherExtend point

/-- Whether a code point has a shape of its own, or is the space. -/
def isPrintable (point : Nat) : Bool :=
  point == 0x20 ||
    !(Property.categories ["Cc", "Cf", "Cs", "Co", "Cn", "Zl", "Zp", "Zs"]).holds point

/-- A name as it is compared: in small letters, without spaces, underscores, hyphens, and
without `is` in front. -/
def plainName (name : List Char) : List Char :=
  let body := match lowerAscii (name.take 2) with
    | ['i', 's'] => name.drop 2
    | _ => name
  let plain := lowerAscii (body.filter fun char =>
    char.toNat < 0x80 && !(char == ' ' || char == '_' || char == '-'))
  if body.length < name.length && plain == ['c'] then ['i', 's', 'c'] else plain

def categoryNames : List (List String × List String) := [
  (["l", "letter"], ["Lu", "Ll", "Lt", "Lm", "Lo"]),
  (["lc", "casedletter"], ["Lu", "Ll", "Lt"]),
  (["lu", "uppercaseletter"], ["Lu"]),
  (["ll", "lowercaseletter"], ["Ll"]),
  (["lt", "titlecaseletter"], ["Lt"]),
  (["lm", "modifierletter"], ["Lm"]),
  (["lo", "otherletter"], ["Lo"]),
  (["m", "mark", "combiningmark"], ["Mn", "Mc", "Me"]),
  (["mn", "nonspacingmark"], ["Mn"]),
  (["mc", "spacingmark"], ["Mc"]),
  (["me", "enclosingmark"], ["Me"]),
  (["n", "number"], ["Nd", "Nl", "No"]),
  (["nd", "decimalnumber", "digit"], ["Nd"]),
  (["nl", "letternumber"], ["Nl"]),
  (["no", "othernumber"], ["No"]),
  (["p", "punctuation", "punct"], ["Pc", "Pd", "Ps", "Pe", "Pi", "Pf", "Po"]),
  (["pc", "connectorpunctuation"], ["Pc"]),
  (["pd", "dashpunctuation"], ["Pd"]),
  (["ps", "openpunctuation"], ["Ps"]),
  (["pe", "closepunctuation"], ["Pe"]),
  (["pi", "initialpunctuation"], ["Pi"]),
  (["pf", "finalpunctuation"], ["Pf"]),
  (["po", "otherpunctuation"], ["Po"]),
  (["s", "symbol"], ["Sm", "Sc", "Sk", "So"]),
  (["sm", "mathsymbol"], ["Sm"]),
  (["sc", "currencysymbol"], ["Sc"]),
  (["sk", "modifiersymbol"], ["Sk"]),
  (["so", "othersymbol"], ["So"]),
  (["z", "separator"], ["Zs", "Zl", "Zp"]),
  (["zs", "spaceseparator"], ["Zs"]),
  (["zl", "lineseparator"], ["Zl"]),
  (["zp", "paragraphseparator"], ["Zp"]),
  (["c", "other"], ["Cc", "Cf", "Cs", "Co", "Cn"]),
  (["cc", "control", "cntrl"], ["Cc"]),
  (["cf", "format"], ["Cf"]),
  (["co", "privateuse"], ["Co"]),
  (["cn", "unassigned"], ["Cn"])]

def assigned : List String :=
  ["Lu", "Ll", "Lt", "Lm", "Lo", "Mn", "Mc", "Me", "Nd", "Nl", "No", "Pc", "Pd", "Ps", "Pe",
    "Pi", "Pf", "Po", "Sm", "Sc", "Sk", "So", "Zs", "Zl", "Zp", "Cc", "Cf", "Cs", "Co"]

/-- The set of characters with a general category of a plain name. -/
def categoryNamed? (name : List Char) : Option Property :=
  if name = "any".toList then some .any
  else if name = "assigned".toList then some (.categories assigned)
  else if name = "ascii".toList then some .ascii
  else
    (categoryNames.find? fun entry => entry.1.any (·.toList == name)).map fun entry =>
      .categories entry.2

def scripts : List (List Char × String) :=
  scriptNames.flatMap fun line =>
    (splitAt ',' line.toList).filterMap fun entry =>
      match splitAt ' ' entry with
      | [name, code] => some (name, String.ofList code)
      | _ => none

def scriptNamed? (name : List Char) : Option Property :=
  (scripts.find? fun entry =>
    entry.1 == name || lowerAscii entry.2.toList == name).map fun entry => .script entry.2

def otherNames : List (List String × Property) := [
  (["alphabetic", "alpha"], .alphabetic),
  (["lowercase", "lower"], .lowercase),
  (["uppercase", "upper"], .uppercase),
  (["whitespace", "wspace", "space"], .whiteSpace),
  (["asciihexdigit", "ahex"], .hexDigit),
  (["joincontrol", "joinc"], .joinControl),
  (["emoji"], .emoji)]

def Property.ofName? (name : List Char) : Option Property :=
  let name := plainName name
  match otherNames.find? fun entry => entry.1.any (·.toList == name) with
  | some entry => some entry.2
  | none => (categoryNamed? name).orElse fun _ => scriptNamed? name

def Property.ofValue? (name value : List Char) : Option Property :=
  let name := plainName name
  if ["gc", "generalcategory"].any (·.toList == name) then categoryNamed? (plainName value)
  else if ["sc", "script", "scx", "scriptextensions"].any (·.toList == name) then
    scriptNamed? (plainName value)
  else none

end EditionGuard.Text.Unicode
