import EditionGuard.Text.Unicode.Property

/-!
# Quoted text

Text between double quotes, with everything escaped that would not show as itself.
-/

namespace EditionGuard.Text

def escaped (char : Char) : List Char :=
  match char with
  | '\x00' => ['\\', '0']
  | '\t' => ['\\', 't']
  | '\r' => ['\\', 'r']
  | '\n' => ['\\', 'n']
  | '\\' => ['\\', '\\']
  | '\x22' => ['\\', '\x22']
  | _ =>
    if Unicode.extendsCharacter char.toNat || !Unicode.isPrintable char.toNat then
      ['\\', 'u', '\x7b'] ++ Nat.toDigits 16 char.toNat ++ ['\x7d']
    else [char]

def quoted (text : List Char) : List Char :=
  '\x22' :: text.flatMap escaped ++ ['\x22']

end EditionGuard.Text
