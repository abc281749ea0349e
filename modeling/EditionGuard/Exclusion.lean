import EditionGuard.Pattern.Syntax
import EditionGuard.Problem
import EditionGuard.Text.Quoted

/-!
# Exclusions

Conditions by which files and messages are left out. Any condition that a candidate meets
excludes it. Patterns see a candidate with slashes for backslashes, literal beginnings see it
in both forms, and free conditions see it as it is.
-/

namespace EditionGuard

namespace Exclusion

inductive Condition where
  /-- The candidate begins with a text. -/
  | beginsWith (text : List Char)
  /-- The candidate holds a match of a pattern. -/
  | pattern (source : List Char) (regex : Pattern.Regex)
  | predicate (test : List Char → Bool)

def withSlashes (text : List Char) : List Char :=
  text.map fun char => if char == '\\' then '/' else char

def Condition.holds (candidate : List Char) : Condition → Bool
  | .beginsWith text =>
    Text.startsWith text candidate || Text.startsWith text (withSlashes candidate)
  | .pattern _ regex => regex.occursIn (withSlashes candidate)
  | .predicate test => test candidate

/-- The condition of a pattern; nothing if the text is no pattern. -/
def Condition.ofPattern? (source : List Char) : Option Condition :=
  (Pattern.Regex.ofText? source).map (.pattern source)

def Condition.inspect : Condition → List Char
  | .beginsWith text => "Prefix(".toList ++ Text.quoted text ++ [')']
  | .pattern source _ => "Pattern(".toList ++ Text.quoted source ++ [')']
  | .predicate _ => "Predicate(..)".toList

end Exclusion

/-- Conditions in order. -/
structure Exclusion where
  conditions : List Exclusion.Condition := []

namespace Exclusion

def isEmpty (exclusion : Exclusion) : Bool := exclusion.conditions.isEmpty

def excludes (exclusion : Exclusion) (candidate : List Char) : Bool :=
  exclusion.conditions.any (·.holds candidate)

def push (exclusion : Exclusion) (condition : Condition) : Exclusion :=
  ⟨exclusion.conditions ++ [condition]⟩

def ofPatterns (patterns : List String) : Except Problem Exclusion :=
  match patterns.mapM fun pattern => Condition.ofPattern? pattern.toList with
  | some conditions => .ok ⟨conditions⟩
  | none => .error .invalidPattern

def inspect (exclusion : Exclusion) : List Char :=
  "Exclude \x7b conditions: [".toList ++
    List.intercalate ", ".toList (exclusion.conditions.map Condition.inspect) ++
    "] \x7d".toList

end Exclusion

end EditionGuard
