namespace RoccCodec

/-!
# Buffers

A buffer is an address and a length, both of 64 bits, as they travel in the
operands of a command.
-/

/-- A run of bytes in memory. -/
structure Buffer where
  address : UInt64
  length : UInt64
  deriving DecidableEq, Repr, Inhabited

namespace Buffer

/-- The address behind the buffer, held at the last address of the space. -/
def stop (buffer : Buffer) : Nat :=
  min (buffer.address.toNat + buffer.length.toNat) 0xFFFFFFFFFFFFFFFF

/-- Both buffers hold bytes, and each starts before the other stops. -/
def overlaps (first second : Buffer) : Bool :=
  first.length != 0 && second.length != 0 &&
    decide (first.address.toNat < second.stop) && decide (second.address.toNat < first.stop)

theorem overlaps_comm (first second : Buffer) : first.overlaps second = second.overlaps first := by
  unfold overlaps
  cases first.length != 0 <;> cases second.length != 0 <;> simp [Bool.and_comm]

end Buffer

end RoccCodec
