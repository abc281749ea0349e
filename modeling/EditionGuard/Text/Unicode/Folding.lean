/-!
# Case folding

Characters that differ in case alone. Every character has a least equivalent, and two are
equivalent if these are the same.
-/

namespace EditionGuard.Text.Unicode

/-- Characters that have a lesser equivalent: a first one, how many there are, the step from
one to the next, and how far their least equivalents lie below. -/
def foldingTable : List (Nat × Nat × Nat × Nat) := [
  (0x61, 26, 1, 0x20), (0xE0, 23, 1, 0x20), (0xF8, 7, 1, 0x20), (0x101, 24, 2, 0x1),
  (0x133, 3, 2, 0x1), (0x13A, 8, 2, 0x1), (0x14B, 23, 2, 0x1), (0x178, 1, 1, 0x79),
  (0x17A, 3, 2, 0x1), (0x17F, 1, 1, 0x12C), (0x183, 2, 2, 0x1), (0x188, 1, 1, 0x1),
  (0x18C, 1, 1, 0x1), (0x192, 1, 1, 0x1), (0x199, 1, 1, 0x1), (0x1A1, 3, 2, 0x1),
  (0x1A8, 1, 1, 0x1), (0x1AD, 1, 1, 0x1), (0x1B0, 1, 1, 0x1), (0x1B4, 2, 2, 0x1),
  (0x1B9, 1, 1, 0x1), (0x1BD, 1, 1, 0x1), (0x1C5, 1, 1, 0x1), (0x1C6, 1, 1, 0x2),
  (0x1C8, 1, 1, 0x1), (0x1C9, 1, 1, 0x2), (0x1CB, 1, 1, 0x1), (0x1CC, 1, 1, 0x2),
  (0x1CE, 8, 2, 0x1), (0x1DD, 1, 1, 0x4F), (0x1DF, 9, 2, 0x1), (0x1F2, 1, 1, 0x1),
  (0x1F3, 1, 1, 0x2), (0x1F5, 1, 1, 0x1), (0x1F6, 1, 1, 0x61), (0x1F7, 1, 1, 0x38),
  (0x1F9, 20, 2, 0x1), (0x220, 1, 1, 0x82), (0x223, 9, 2, 0x1), (0x23C, 1, 1, 0x1),
  (0x23D, 1, 1, 0xA3), (0x242, 1, 1, 0x1), (0x243, 1, 1, 0xC3), (0x247, 5, 2, 0x1),
  (0x253, 1, 1, 0xD2), (0x254, 1, 1, 0xCE), (0x256, 2, 1, 0xCD), (0x259, 1, 1, 0xCA),
  (0x25B, 1, 1, 0xCB), (0x260, 1, 1, 0xCD), (0x263, 1, 1, 0xCF), (0x268, 1, 1, 0xD1),
  (0x269, 1, 1, 0xD3), (0x26F, 1, 1, 0xD3), (0x272, 1, 1, 0xD5), (0x275, 1, 1, 0xD6),
  (0x280, 1, 1, 0xDA), (0x283, 1, 1, 0xDA), (0x288, 1, 1, 0xDA), (0x289, 1, 1, 0x45),
  (0x28A, 2, 1, 0xD9), (0x28C, 1, 1, 0x47), (0x292, 1, 1, 0xDB), (0x371, 2, 2, 0x1),
  (0x377, 1, 1, 0x1), (0x399, 1, 1, 0x54), (0x39C, 1, 1, 0x2E7), (0x3AC, 1, 1, 0x26),
  (0x3AD, 3, 1, 0x25), (0x3B1, 8, 1, 0x20), (0x3B9, 1, 1, 0x74), (0x3BA, 2, 1, 0x20),
  (0x3BC, 1, 1, 0x307), (0x3BD, 8, 2, 0x20), (0x3BE, 2, 2, 0x20), (0x3C2, 1, 1, 0x1F),
  (0x3C4, 4, 2, 0x20), (0x3CC, 1, 1, 0x40), (0x3CD, 2, 1, 0x3F), (0x3D0, 1, 1, 0x3E),
  (0x3D1, 1, 1, 0x39), (0x3D5, 1, 1, 0x2F), (0x3D6, 1, 1, 0x36), (0x3D7, 1, 1, 0x8),
  (0x3D9, 12, 2, 0x1), (0x3F0, 1, 1, 0x56), (0x3F1, 1, 1, 0x50), (0x3F3, 1, 1, 0x74),
  (0x3F4, 1, 1, 0x5C), (0x3F5, 1, 1, 0x60), (0x3F8, 1, 1, 0x1), (0x3F9, 1, 1, 0x7),
  (0x3FB, 1, 1, 0x1), (0x3FD, 3, 1, 0x82), (0x430, 32, 1, 0x20), (0x450, 16, 1, 0x50),
  (0x461, 17, 2, 0x1), (0x48B, 27, 2, 0x1), (0x4C2, 7, 2, 0x1), (0x4CF, 1, 1, 0xF),
  (0x4D1, 48, 2, 0x1), (0x561, 38, 1, 0x30), (0x13F8, 6, 1, 0x8), (0x1C80, 1, 1, 0x186E),
  (0x1C81, 1, 1, 0x186D), (0x1C82, 1, 1, 0x1864), (0x1C83, 2, 1, 0x1862),
  (0x1C85, 1, 1, 0x1863), (0x1C86, 1, 1, 0x185C), (0x1C87, 1, 1, 0x1825), (0x1C8A, 1, 1, 0x1),
  (0x1C90, 43, 1, 0xBC0), (0x1CBD, 3, 1, 0xBC0), (0x1E01, 75, 2, 0x1), (0x1E9B, 1, 1, 0x3B),
  (0x1E9E, 1, 1, 0x1DBF), (0x1EA1, 48, 2, 0x1), (0x1F08, 8, 1, 0x8), (0x1F18, 6, 1, 0x8),
  (0x1F28, 8, 1, 0x8), (0x1F38, 8, 1, 0x8), (0x1F48, 6, 1, 0x8), (0x1F59, 4, 2, 0x8),
  (0x1F68, 8, 1, 0x8), (0x1F88, 8, 1, 0x8), (0x1F98, 8, 1, 0x8), (0x1FA8, 8, 1, 0x8),
  (0x1FB8, 2, 1, 0x8), (0x1FBA, 2, 1, 0x4A), (0x1FBC, 1, 1, 0x9), (0x1FBE, 1, 1, 0x1C79),
  (0x1FC8, 4, 1, 0x56), (0x1FCC, 1, 1, 0x9), (0x1FD3, 1, 1, 0x1C43), (0x1FD8, 2, 1, 0x8),
  (0x1FDA, 2, 1, 0x64), (0x1FE3, 1, 1, 0x1C33), (0x1FE8, 2, 1, 0x8), (0x1FEA, 2, 1, 0x70),
  (0x1FEC, 1, 1, 0x7), (0x1FF8, 2, 1, 0x80), (0x1FFA, 2, 1, 0x7E), (0x1FFC, 1, 1, 0x9),
  (0x2126, 1, 1, 0x1D7D), (0x212A, 1, 1, 0x20DF), (0x212B, 1, 1, 0x2066), (0x214E, 1, 1, 0x1C),
  (0x2170, 16, 1, 0x10), (0x2184, 1, 1, 0x1), (0x24D0, 26, 1, 0x1A), (0x2C30, 48, 1, 0x30),
  (0x2C61, 1, 1, 0x1), (0x2C62, 1, 1, 0x29F7), (0x2C63, 1, 1, 0xEE6), (0x2C64, 1, 1, 0x29E7),
  (0x2C65, 1, 1, 0x2A2B), (0x2C66, 1, 1, 0x2A28), (0x2C68, 3, 2, 0x1), (0x2C6D, 1, 1, 0x2A1C),
  (0x2C6E, 1, 1, 0x29FD), (0x2C6F, 1, 1, 0x2A1F), (0x2C70, 1, 1, 0x2A1E), (0x2C73, 1, 1, 0x1),
  (0x2C76, 1, 1, 0x1), (0x2C7E, 2, 1, 0x2A3F), (0x2C81, 50, 2, 0x1), (0x2CEC, 2, 2, 0x1),
  (0x2CF3, 1, 1, 0x1), (0x2D00, 38, 1, 0x1C60), (0x2D27, 1, 1, 0x1C60), (0x2D2D, 1, 1, 0x1C60),
  (0xA641, 5, 2, 0x1), (0xA64A, 1, 1, 0x89C2), (0xA64B, 1, 1, 0x89C3), (0xA64D, 17, 2, 0x1),
  (0xA681, 14, 2, 0x1), (0xA723, 7, 2, 0x1), (0xA733, 31, 2, 0x1), (0xA77A, 2, 2, 0x1),
  (0xA77D, 1, 1, 0x8A04), (0xA77F, 5, 2, 0x1), (0xA78C, 1, 1, 0x1), (0xA78D, 1, 1, 0xA528),
  (0xA791, 2, 2, 0x1), (0xA797, 10, 2, 0x1), (0xA7AA, 1, 1, 0xA544), (0xA7AB, 1, 1, 0xA54F),
  (0xA7AC, 1, 1, 0xA54B), (0xA7AD, 1, 1, 0xA541), (0xA7AE, 1, 1, 0xA544),
  (0xA7B0, 1, 1, 0xA512), (0xA7B1, 1, 1, 0xA52A), (0xA7B2, 1, 1, 0xA515), (0xA7B5, 8, 2, 0x1),
  (0xA7C4, 1, 1, 0x30), (0xA7C5, 1, 1, 0xA543), (0xA7C6, 1, 1, 0x8A38), (0xA7C8, 2, 2, 0x1),
  (0xA7CB, 1, 1, 0xA567), (0xA7CD, 8, 2, 0x1), (0xA7DC, 1, 1, 0xA641), (0xA7F6, 1, 1, 0x1),
  (0xAB53, 1, 1, 0x3A0), (0xAB70, 80, 1, 0x97D0), (0xFB06, 1, 1, 0x1), (0xFF41, 26, 1, 0x20),
  (0x10428, 40, 1, 0x28), (0x104D8, 36, 1, 0x28), (0x10597, 19, 2, 0x27),
  (0x10598, 5, 2, 0x27), (0x105A4, 7, 2, 0x27), (0x105B4, 3, 2, 0x27), (0x105BC, 1, 1, 0x27),
  (0x10CC0, 51, 1, 0x40), (0x10D70, 22, 1, 0x20), (0x118C0, 32, 1, 0x20),
  (0x16E60, 32, 1, 0x20), (0x16EBB, 25, 1, 0x1B), (0x1E922, 34, 1, 0x22)]

def inRow (row : Nat × Nat × Nat × Nat) (point : Nat) : Bool :=
  let (first, count, step, _) := row
  first ≤ point && (point - first) % step == 0 && (point - first) / step < count

/-- The least equivalent of a code point. -/
def leastEquivalent (point : Nat) : Nat :=
  match foldingTable.find? (inRow · point) with
  | some (_, _, _, distance) => point - distance
  | none => point

/-- The code points equivalent to one, the least first. -/
def equivalents (point : Nat) : List Nat :=
  let least := leastEquivalent point
  least :: foldingTable.filterMap fun row =>
    let (_, _, _, distance) := row
    if inRow row (least + distance) then some (least + distance) else none

end EditionGuard.Text.Unicode
