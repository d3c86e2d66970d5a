namespace RoccCodec

/-!
# Lengths of 64 bits

Lengths and running sums are natural numbers below `Length.limit`.  Arithmetic
that leaves the range neither wraps nor saturates: it aborts the computation it
belongs to, and the abort names the operation.
-/

/-- Arithmetic left the 64-bit range. -/
inductive Overflow where
  | addition
  | subtraction
  | multiplication
  deriving DecidableEq, Repr

namespace Overflow

def message : Overflow → String
  | .addition => "attempt to add with overflow"
  | .subtraction => "attempt to subtract with overflow"
  | .multiplication => "attempt to multiply with overflow"

end Overflow

namespace Length

/-- The first number that is no length. -/
def limit : Nat := 0x10000000000000000

/-- The sum, if it is a length. -/
def add (first second : Nat) : Except Overflow Nat :=
  if first + second < limit then .ok (first + second) else .error .addition

def sub (first second : Nat) : Except Overflow Nat :=
  if second ≤ first then .ok (first - second) else .error .subtraction

def mul (first second : Nat) : Except Overflow Nat :=
  if first * second < limit then .ok (first * second) else .error .multiplication

theorem add_of_lt {first second : Nat} (fits : first + second < limit) :
    add first second = .ok (first + second) := by
  simp [add, fits]

theorem sub_of_le {first second : Nat} (fits : second ≤ first) :
    sub first second = .ok (first - second) := by
  simp [sub, fits]

theorem add_eq_ok_iff {first second total : Nat} :
    add first second = .ok total ↔ total = first + second ∧ total < limit := by
  unfold add
  split <;> simp <;> omega

theorem mul_eq_ok_iff {first second total : Nat} :
    mul first second = .ok total ↔ total = first * second ∧ total < limit := by
  unfold mul
  split
  · rename_i fits
    simp only [Except.ok.injEq]
    constructor
    · intro same
      exact ⟨same.symm, same ▸ fits⟩
    · intro same
      exact same.1.symm
  · rename_i large
    simp only [reduceCtorEq, false_iff, not_and]
    intro same
    exact same ▸ large

end Length

end RoccCodec
