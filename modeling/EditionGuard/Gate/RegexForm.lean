import EditionGuard.Gate.Feature
import EditionGuard.Text.Basic

/-!
# Features inside regular expressions

Flags are told by their letters, groups and escapes by their spelling in the pattern.
-/

namespace EditionGuard.Gate.RegexForm

/-- A regular expression cut at its last slash: the pattern with the slash before it, and
the flags after. -/
def split (raw : List Char) : List Char × List Char :=
  let reversedFlags := raw.reverse.takeWhile (· != '/')
  (raw.take (raw.length - reversedFlags.length - 1), reversedFlags.reverse)

/-- The flags that some edition brought. -/
def isDatedFlag (flag : Char) : Bool := ['u', 'y', 's', 'd', 'v'].contains flag

/-- Whether a flag may be switched within an expression. -/
def isModifier (char : Char) : Bool := char == 'i' || char == 'm' || char == 's'

/-- Whether a text begins with letters `i`, `m`, `s`, set or unset, and a colon. Before a
minus sign there may be none, and after one there may be none if some stood before. -/
def startsWithModifiers (text : List Char) : Bool :=
  let set := text.takeWhile isModifier
  match text.dropWhile isModifier with
  | ':' :: _ => !set.isEmpty
  | '-' :: rest =>
    let unset := rest.takeWhile isModifier
    (rest.dropWhile isModifier).head? == some ':' && !(set.isEmpty && unset.isEmpty)
  | _ => false

/-- Whether a group with modifiers opens somewhere, not right after a backslash. -/
def hasModifiers : Option Char → List Char → Bool
  | _, [] => false
  | before, char :: rest =>
    (before != some '\\' && char == '(' &&
      match rest with
      | '?' :: more => startsWithModifiers more
      | _ => false) || hasModifiers (some char) rest

def features (raw : List Char) : List Feature :=
  let (pattern, flags) := split raw
  let contains (wanted : String) : Bool := Text.occurs wanted.toList pattern
  (flags.filter isDatedFlag).map .regexFlag ++
    (if contains "(?<=" || contains "(?<!" then [.lookbehind]
      else if contains "(?<" then [.namedGroup] else []) ++
    (if hasModifiers none pattern then [.regexModifiers] else []) ++
    (if flags.contains 'u' && (contains "\\p\x7b" || contains "\\P\x7b") then
      [.propertyEscape] else [])

end EditionGuard.Gate.RegexForm
