import EditionGuard.Text.Basic
import EditionGuard.Text.Utf8
import Mathlib.Algebra.Group.Nat.Defs
import Mathlib.Tactic.SplitIfs

/-!
# Bytes of characters

Characters of ASCII are single bytes.  Other characters begin with a byte that tells how many
follow, and the bytes that follow are digits in base 64.  So bytes stand in the order of the
characters.
-/

namespace EditionGuard.Text.Utf8

theorem encode_cons (char : Char) (rest : List Char) :
    encode (char :: rest) = String.utf8EncodeChar char ++ encode rest :=
  List.flatMap_cons

theorem length_encode (text : List Char) : (encode text).length = byteLength text := by
  induction text with
  | nil => rfl
  | cons char rest inductionHypothesis =>
      rw [encode_cons, List.length_append, String.length_utf8EncodeChar, byteLength_cons,
        inductionHypothesis]

theorem utf8EncodeChar_of_lt {char : Char} (ascii : char.toNat < 0x80) :
    String.utf8EncodeChar char = [UInt8.ofNat char.toNat] := by
  have small : char.val.toNat ≤ 127 := Nat.le_of_lt_succ ascii
  simp only [String.utf8EncodeChar, small, if_true]
  rfl

theorem map_encode_of_ascii {text : List Char} (ascii : ∀ char ∈ text, char.toNat < 0x80) :
    (encode text).map (fun byte => Char.ofNat byte.toNat) = text := by
  induction text with
  | nil => rfl
  | cons char rest inductionHypothesis =>
      have isAscii := ascii char List.mem_cons_self
      have same : Char.ofNat (UInt8.ofNat char.toNat).toNat = char := by
        rw [UInt8.toNat_ofNat_of_lt' (Nat.lt_trans isAscii (by decide)), Char.ofNat_toNat]
      have further := inductionHypothesis fun other member =>
        ascii other (List.mem_cons_of_mem char member)
      rw [encode_cons, utf8EncodeChar_of_lt isAscii, List.map_append, further, List.map_singleton,
        same]
      rfl

/-- How many bytes follow the first byte of a character. -/
def trailing (point : Nat) : Nat :=
  if point ≤ 0x7F then 0 else if point ≤ 0x7FF then 1 else if point ≤ 0xFFFF then 2 else 3

/-- The first byte of a character that so many bytes follow, as long as the character adds
nothing to it. -/
def mark : Nat → Nat
  | 0 => 0
  | 1 => 0xC0
  | 2 => 0xE0
  | _ => 0xF0

def leading (point : Nat) : Nat := mark (trailing point) + point / 64 ^ trailing point

/-- The bytes for the last digits of a character in base 64. -/
def continuation (point : Nat) : Nat → List UInt8
  | 0 => []
  | count + 1 => UInt8.ofNat (point / 64 ^ count % 64 + 0x80) :: continuation point count

theorem toNat_lt (char : Char) : char.toNat < 0x110000 := by
  have isPoint := char.valid
  simp only [UInt32.isValidChar, Nat.isValidChar] at isPoint
  rw [Char.toNat]
  omega

theorem utf8EncodeChar_eq (char : Char) :
    String.utf8EncodeChar char =
      UInt8.ofNat (leading char.toNat) :: continuation char.toNat (trailing char.toNat) := by
  have valid := toNat_lt char
  rw [Char.toNat] at valid ⊢
  generalize isPoint : char.val.toNat = point at valid
  simp only [String.utf8EncodeChar, isPoint, leading, trailing]
  by_cases one : point ≤ 0x7F
  · simp [one, continuation, mark]
  · by_cases two : point ≤ 0x7FF
    · have lead : point / 64 % 32 = point / 64 := by omega
      simp [one, two, continuation, mark, lead, Nat.add_comm]
    · by_cases three : point ≤ 0xFFFF
      · have lead : point / 4096 % 16 = point / 4096 := by omega
        simp [one, two, three, continuation, mark, lead, Nat.add_comm]
      · have lead : point / 262144 % 8 = point / 262144 := by omega
        simp [one, two, three, continuation, mark, lead, Nat.add_comm]

theorem ofNat_cons_lt_iff {left right : Nat} (leftSmall : left < 256) (rightSmall : right < 256)
    {leftRest rightRest : List UInt8} :
    UInt8.ofNat left :: leftRest < UInt8.ofNat right :: rightRest ↔
      left < right ∨ left = right ∧ leftRest < rightRest := by
  rw [List.cons_lt_cons_iff, UInt8.lt_iff_toNat_lt, ← UInt8.toNat_inj,
    UInt8.toNat_ofNat_of_lt' leftSmall, UInt8.toNat_ofNat_of_lt' rightSmall]

theorem continuation_append_lt {count left right : Nat}
    (less : left % 64 ^ count < right % 64 ^ count) (leftRest rightRest : List UInt8) :
    continuation left count ++ leftRest < continuation right count ++ rightRest := by
  induction count with
  | zero => omega
  | succ count inductionHypothesis =>
      have leftByte : left / 64 ^ count % 64 + 0x80 < 256 := by omega
      have rightByte : right / 64 ^ count % 64 + 0x80 < 256 := by omega
      rw [continuation, continuation, List.cons_append, List.cons_append,
        ofNat_cons_lt_iff leftByte rightByte]
      rw [Nat.mod_pow_succ, Nat.mod_pow_succ] at less
      rcases Nat.lt_trichotomy (left / 64 ^ count % 64) (right / 64 ^ count % 64) with
        below | same | above
      · exact Or.inl (Nat.add_lt_add_right below 0x80)
      · rw [same] at less ⊢
        exact Or.inr ⟨rfl, inductionHypothesis (Nat.lt_of_add_lt_add_right less)⟩
      · have weight := Nat.mul_le_mul_left (64 ^ count) above
        have rightTail : right % 64 ^ count < 64 ^ count := Nat.mod_lt _ (Nat.pow_pos (by decide))
        rw [Nat.mul_succ] at weight
        omega

theorem leading_lt_of_trailing_ne {left right : Nat} (less : left < right)
    (different : trailing left ≠ trailing right) : leading left < leading right := by
  unfold leading
  unfold trailing at different ⊢
  split_ifs at different ⊢ <;> simp only [mark] <;> omega

theorem div_lt_or_mod_lt {left right : Nat} (less : left < right) (unit : Nat) :
    left / unit < right / unit ∨ left / unit = right / unit ∧ left % unit < right % unit := by
  rcases Nat.lt_or_eq_of_le (Nat.div_le_div_right (Nat.le_of_lt less)) with below | same
  · exact Or.inl below
  · have wholeLeft := Nat.div_add_mod left unit
    have wholeRight := Nat.div_add_mod right unit
    rw [same] at wholeLeft
    exact Or.inr ⟨same, by omega⟩

theorem leading_lt_256 {char : Char} : leading char.toNat < 256 := by
  have valid := toNat_lt char
  unfold leading trailing
  split_ifs <;> simp only [mark] <;> omega

theorem utf8EncodeChar_append_lt {left right : Char} (less : left.toNat < right.toNat)
    (leftRest rightRest : List UInt8) :
    String.utf8EncodeChar left ++ leftRest < String.utf8EncodeChar right ++ rightRest := by
  rw [utf8EncodeChar_eq, utf8EncodeChar_eq, List.cons_append, List.cons_append,
    ofNat_cons_lt_iff leading_lt_256 leading_lt_256]
  by_cases same : trailing left.toNat = trailing right.toNat
  · rw [leading, leading, same]
    rcases div_lt_or_mod_lt less (64 ^ trailing right.toNat) with below | ⟨sameLead, tailLess⟩
    · exact Or.inl (Nat.add_lt_add_left below _)
    · rw [sameLead]
      exact Or.inr ⟨rfl, continuation_append_lt tailLess leftRest rightRest⟩
  · exact Or.inl (leading_lt_of_trailing_ne less same)

theorem append_lt_append_left_iff (front : List UInt8) {left right : List UInt8} :
    front ++ left < front ++ right ↔ left < right := by
  induction front with
  | nil => rfl
  | cons byte rest inductionHypothesis =>
      rw [List.cons_append, List.cons_append, List.cons_lt_cons_iff, inductionHypothesis]
      simp

end EditionGuard.Text.Utf8
