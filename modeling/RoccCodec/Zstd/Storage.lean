namespace RoccCodec.Zstd

/-!
# Storage of a decoder

A decoder keeps its storage from frame to frame, and takes new storage when it
is too small or has been far too large for many frames in a row.
-/

/-- The storage of a decoder, in bytes, and for how many frames in a row it has
been far too large. -/
structure Storage where
  input : Nat
  output : Nat
  wasted : Nat
  deriving DecidableEq, Repr

namespace Storage

def empty : Storage := ⟨0, 0, 0⟩

/-- So many times what is needed is far too large. -/
def excess : Nat := 3

/-- Storage that is far too large is given back after so many frames. -/
def patience : Nat := 128

/-- For how many frames in a row the storage has been far too large, with one
more frame that needs this much. -/
def wastedWith (storage : Storage) (input output : Nat) : Nat :=
  if (input + output) * excess ≤ storage.input + storage.output then storage.wasted + 1 else 0

/-- The storage for a frame that needs this much. -/
def prepare (storage : Storage) (input output : Nat) : Storage :=
  let wasted := storage.wastedWith input output
  if storage.input < input ∨ storage.output < output ∨ patience ≤ wasted then
    ⟨input, output, wasted⟩
  else
    { storage with wasted }

end Storage

end RoccCodec.Zstd
