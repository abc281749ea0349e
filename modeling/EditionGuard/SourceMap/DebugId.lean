import EditionGuard.Text.Basic
import EditionGuard.Text.Digit
import EditionGuard.Word

/-!
# Debug identifiers

The identifier of a build: 32 hexadecimal digits, or the same in groups of 8, 4, 4, 4 and 12
between hyphens. A number of 32 bits may follow, in groups behind one more hyphen.
-/

namespace EditionGuard.SourceMap

def isHexWord (text : List Char) : Bool :=
  !text.isEmpty && (Text.hexadecimal? text).any fun number => number < Word.count32

def isDebugId (text : List Char) : Bool :=
  match Text.splitAt '-' text with
  | [plain] =>
    let number := plain.drop 32
    (plain.take 32).length == 32 && (plain.take 32).all Text.isHexDigit &&
      (number.isEmpty || isHexWord number)
  | first :: second :: third :: fourth :: fifth :: number =>
    [first, second, third, fourth, fifth].map List.length == [8, 4, 4, 4, 12] &&
      [first, second, third, fourth, fifth].all (·.all Text.isHexDigit) &&
      match number with
      | [] => true
      | [number] => isHexWord number
      | _ => false
  | _ => false

end EditionGuard.SourceMap
