import RoccCodec.FunctTable

namespace RoccCodec

/-!
# Completion words

The caller clears the 64-bit word of a request, and the unit stores a nonzero
value when the request has finished.  A unit may fill in only the low bytes, so
a word has a meaning only together with the width in which it is read.
-/

/-- What a completion word holds, read in a width. -/
structure Completion where
  raw : UInt64
  width : SignalWidth
  deriving DecidableEq, Repr

namespace Completion

/-- The part of the word the width covers. -/
def value (completion : Completion) : UInt64 :=
  match completion.width with
  | .bits64 => completion.raw
  | .bits32 => completion.raw &&& 0xFFFFFFFF
  | .bits8 => completion.raw &&& 0xFF

def done (completion : Completion) : Bool := completion.value != 0

/-- The bytes a compression produced; nothing where the unit reports only a flag. -/
def produced (completion : Completion) : UInt64 :=
  match completion.width with
  | .bits8 => 0
  | .bits64 | .bits32 => completion.value

/-- A decompression has succeeded. -/
def success (completion : Completion) : Bool := completion.done

theorem done_eq_true_iff {completion : Completion} :
    completion.done = true ↔ completion.value ≠ 0 := by
  simp [done]

@[simp] theorem done_clear (width : SignalWidth) : (Completion.mk 0 width).done = false := by
  cases width <;> decide

end Completion

/-- How a wait reads the completion word: until it is set, however long that
takes; until it is set or so many reads had to be repeated; or once, whatever
it holds. -/
inductive PollPolicy where
  | spin
  | bounded (budget : UInt64)
  | skip
  deriving DecidableEq, Repr, Inhabited

end RoccCodec
