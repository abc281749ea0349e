/-!
# UTF-8

Text as bytes. Reading back is strict: overlong forms, surrogates and numbers past the last
character are no text.
-/

namespace EditionGuard.Text.Utf8

def encode (text : List Char) : List UInt8 := text.flatMap String.utf8EncodeChar

def continues (byte : UInt8) : Bool := 0x80 ≤ byte && byte ≤ 0xBF

/-- Whether `second` may follow the first byte of a character of three or four bytes. -/
def mayFollow (first second : UInt8) : Bool :=
  if first == 0xE0 then 0xA0 ≤ second && second ≤ 0xBF
  else if first == 0xED then 0x80 ≤ second && second ≤ 0x9F
  else if first == 0xF0 then 0x90 ≤ second && second ≤ 0xBF
  else if first == 0xF4 then 0x80 ≤ second && second ≤ 0x8F
  else continues second

/-- The bits that a byte adds to a character that it continues. -/
def extend (high : Nat) (byte : UInt8) : Nat := high * 64 + (byte.toNat - 0x80)

/-- The text of some bytes; nothing if they are not in UTF-8. -/
def decode? : List UInt8 → Option (List Char)
  | [] => some []
  | first :: rest =>
    if first < 0x80 then (decode? rest).map (Char.ofNat first.toNat :: ·)
    else if first < 0xC2 then none
    else if first < 0xE0 then
      match rest with
      | second :: rest =>
        if continues second then
          (decode? rest).map (Char.ofNat (extend (first.toNat - 0xC0) second) :: ·)
        else none
      | _ => none
    else if first < 0xF0 then
      match rest with
      | second :: third :: rest =>
        if mayFollow first second && continues third then
          (decode? rest).map
            (Char.ofNat (extend (extend (first.toNat - 0xE0) second) third) :: ·)
        else none
      | _ => none
    else if first < 0xF5 then
      match rest with
      | second :: third :: fourth :: rest =>
        if mayFollow first second && continues third && continues fourth then
          (decode? rest).map
            (Char.ofNat (extend (extend (extend (first.toNat - 0xF0) second) third) fourth) :: ·)
        else none
      | _ => none
    else none

end EditionGuard.Text.Utf8
