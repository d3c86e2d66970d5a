import RoccCodec.Accelerator

namespace RoccCodec

/-!
# Absent accelerators

Where there is no accelerator, every command is dropped.  A completion word is
never set, so waits are told to read it once.
-/

/-- No accelerator, and how waits poll in its place. -/
structure Absent where
  policy : PollPolicy := .skip
  deriving DecidableEq, Repr

namespace Absent

instance : Accelerator Absent where
  policy absent := absent.policy
  handle _ absent memory := (0, .quiet absent memory)
  elapse _ absent memory := .quiet absent memory

end Absent

end RoccCodec
