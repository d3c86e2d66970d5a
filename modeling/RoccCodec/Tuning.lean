import RoccCodec.Pipeline

namespace RoccCodec

/-!
# Runtime parameters

A push replaces the value before it, and nothing can be read back, so a driver
keeps the same record beside the unit.  A parameter that was never pushed stays
absent, which stands for the value the unit powers on with.
-/

/-- A model of slow memory, injected into a pipeline: cycles added to every
access, and whether a cache stands in front. -/
structure Latency where
  cycles : UInt64
  hasCache : Bool
  deriving DecidableEq, Repr

/-- A value pushed to a pipeline outside of a request: the limit of the history
window in bytes, the binary logarithm of the number of hash table entries, a
latency, or the codec of a unit that hosts several. -/
inductive Parameter where
  | history (bytes : UInt64)
  | hashTableLog2 (log2 : UInt64)
  | latency (latency : Latency)
  | algorithm (algorithm : Algorithm)
  deriving DecidableEq, Repr

namespace Parameter

/-- The command that carries the parameter. -/
def kind : Parameter → CommandKind
  | .history _ => .history
  | .hashTableLog2 _ => .hashTableLog2
  | .latency _ => .latencyInjection
  | .algorithm _ => .selectAlgorithm

end Parameter

/-- The values last pushed to one pipeline. -/
structure Tuning where
  history : Option UInt64
  hashTableLog2 : Option UInt64
  latency : Option Latency
  deriving DecidableEq, Repr

namespace Tuning

def powerOn : Tuning := ⟨none, none, none⟩

/-- Take a pushed parameter in.  The choice of a codec belongs to a request
and leaves no trace. -/
def record (tuning : Tuning) : Parameter → Tuning
  | .history bytes => { tuning with history := some bytes }
  | .hashTableLog2 log2 => { tuning with hashTableLog2 := some log2 }
  | .latency latency => { tuning with latency := some latency }
  | .algorithm _ => tuning

@[simp] theorem record_record (tuning : Tuning) (parameter : Parameter) :
    (tuning.record parameter).record parameter = tuning.record parameter := by
  cases parameter <;> rfl

theorem record_comm (tuning : Tuning) {first second : Parameter}
    (different : first.kind ≠ second.kind) :
    (tuning.record first).record second = (tuning.record second).record first := by
  cases first <;> cases second <;> simp_all [record, Parameter.kind]

/-- Nanoseconds by which a unit with a worker of its own holds a request back:
one for each injected cycle, and two where no cache absorbs the repeats. -/
def delay (tuning : Tuning) : Nat :=
  match tuning.latency with
  | none => 0
  | some latency =>
    min (latency.cycles.toNat * (if latency.hasCache then 1 else 2)) 0xFFFFFFFFFFFFFFFF

end Tuning

end RoccCodec
