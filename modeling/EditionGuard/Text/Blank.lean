/-!
# White space

The characters with the Unicode property `White_Space`, and trimming by them.
-/

namespace EditionGuard.Text

def isWhiteSpace (char : Char) : Bool :=
  let point := char.toNat
  (9 ≤ point && point ≤ 13) || point == 0x20 || point == 0x85 || point == 0xA0 ||
    point == 0x1680 || (0x2000 ≤ point && point ≤ 0x200A) || point == 0x2028 ||
    point == 0x2029 || point == 0x202F || point == 0x205F || point == 0x3000

def trim (text : List Char) : List Char :=
  ((text.dropWhile isWhiteSpace).reverse.dropWhile isWhiteSpace).reverse

def lowerAscii (text : List Char) : List Char := text.map Char.toLower

end EditionGuard.Text
