/-!
# Words

How many numbers have 32 bits, and how many have 64.  Lines are counted in 32 bits, and counting
stops where there is no number left.
-/

namespace EditionGuard

/-- What ends the program: a number that no word has room for. -/
inductive Overflow where
  | line
deriving DecidableEq, Repr, Inhabited

namespace Word

def count32 : Nat := 4294967296

def count64 : Nat := 18446744073709551616

def nextLine (line : Nat) : Except Overflow Nat :=
  if line + 1 < count32 then .ok (line + 1) else .error .line

theorem nextLine_eq_ok_iff {line next : Nat} :
    nextLine line = .ok next ↔ line + 1 < count32 ∧ next = line + 1 := by
  rw [nextLine]
  split
  · rename_i fits
    rw [Except.ok.injEq, and_iff_right fits, eq_comm]
  · rename_i full
    simp [full]

theorem nextLine_eq_error_iff {line : Nat} {stop : Overflow} :
    nextLine line = .error stop ↔ count32 ≤ line + 1 := by
  cases stop
  rw [nextLine]
  split
  · rename_i fits
    simp [fits]
  · rename_i full
    simp [Nat.not_lt.mp full]

end Word

end EditionGuard
