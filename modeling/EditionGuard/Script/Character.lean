import EditionGuard.Text.Ranges
import EditionGuard.Script.IdentifierTable

/-!
# Classes of characters

Which characters begin and continue a name, which are blank, and which end a line.
-/

namespace EditionGuard.Script

/-- A letter, `$` or `_`, or a character beyond ASCII that may begin a name. -/
def isNameStart (char : Char) : Bool :=
  if char.val < 0x80 then char.isAlpha || char == '$' || char == '_'
  else Text.inChanges IdentifierTable.startChanges char.toNat

/-- A character that may continue a name; the two zero-width joiners are among them. -/
def isNamePart (char : Char) : Bool :=
  if char.val < 0x80 then char.isAlphanum || char == '$' || char == '_'
  else char.toNat == 0x200C || char.toNat == 0x200D ||
    Text.inChanges IdentifierTable.continueChanges char.toNat

/-- A character that ends a line: line feed, carriage return, and the two Unicode separators. -/
def isLineEnd (char : Char) : Bool :=
  char == '\n' || char == '\r' || char.toNat == 0x2028 || char.toNat == 0x2029

def isIrregularBlank (char : Char) : Bool :=
  let point := char.toNat
  point == 0x0B || point == 0x0C || point == 0x85 || point == 0xA0 || point == 0x1680 ||
    (0x2000 ≤ point && point ≤ 0x200B) || point == 0x202F || point == 0x205F ||
    point == 0x3000 || point == 0xFEFF

/-- A character that separates tokens without ending a line. -/
def isBlank (char : Char) : Bool :=
  char == ' ' || char == '\t' || isIrregularBlank char

end EditionGuard.Script
