import RoccCodec.Length

namespace RoccCodec.Bound

/-!
# Bounds on compressed sizes

A unit does not know the size of the memory it writes into, so a compression is
sent only if the destination holds the most its codec can produce.
-/

/-- The most a Snappy block of `length` source bytes can take. -/
def snappy (length : Nat) : Except Overflow Nat := do
  Length.add (← Length.add 32 length) (length / 6)

/-- Sources from here on get no extra margin in a Zstd frame. -/
def smallSource : Nat := 0x20000

/-- Room for the fixed parts of the frame of a small source. -/
def margin (length : Nat) : Except Overflow Nat :=
  if length < smallSource then (Length.sub smallSource length).map (· / 2048) else .ok 0

/-- The most a Zstd frame of `length` source bytes can take. -/
def zstd (length : Nat) : Except Overflow Nat := do
  let margin ← margin length
  Length.add (← Length.add length (length / 256)) margin

theorem snappy_eq {length : Nat} (addressable : length < 0x8000000000000000) :
    snappy length = .ok (32 + length + length / 6) := by
  have first : Length.add 32 length = .ok (32 + length) :=
    Length.add_of_lt (by unfold Length.limit; omega)
  have second : Length.add (32 + length) (length / 6) = .ok (32 + length + length / 6) :=
    Length.add_of_lt (by unfold Length.limit; omega)
  simp [snappy, first, second, bind, Except.bind]

/-- The guard keeps the difference from falling below zero. -/
theorem margin_eq (length : Nat) : margin length = .ok ((smallSource - length) / 2048) := by
  unfold margin
  split
  · rename_i small
    rw [Length.sub_of_le (Nat.le_of_lt small)]
    rfl
  · rename_i large
    rw [Nat.sub_eq_zero_of_le (Nat.not_lt.mp large)]

theorem zstd_eq {length : Nat} (addressable : length < 0x8000000000000000) :
    zstd length = .ok (length + length / 256 + (smallSource - length) / 2048) := by
  have first : Length.add length (length / 256) = .ok (length + length / 256) :=
    Length.add_of_lt (by unfold Length.limit; omega)
  have second : Length.add (length + length / 256) ((smallSource - length) / 2048) =
      .ok (length + length / 256 + (smallSource - length) / 2048) :=
    Length.add_of_lt (by unfold Length.limit smallSource; omega)
  simp [zstd, margin_eq, first, second, bind, Except.bind]

end RoccCodec.Bound
