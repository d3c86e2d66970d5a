import RoccCodec.Device.Absent
import RoccCodec.Device.Scripted
import RoccCodec.Device.Simulated

namespace RoccCodec

/-!
# Targets

A target is any of the accelerators of this library.  Programs that choose
their accelerator when they start are written over targets.
-/

/-- One of the accelerators. -/
inductive Target where
  | absent (unit : Absent)
  | scripted (unit : Scripted)
  | simulated (unit : Simulated)

namespace Target

def policy : Target → PollPolicy
  | .absent unit => Accelerator.policy unit
  | .scripted unit => Accelerator.policy unit
  | .simulated unit => Accelerator.policy unit

def handle (command : Command) (memory : Memory) : Target → UInt64 × Effect Target
  | .absent unit =>
    let (answer, effect) := Accelerator.handle command unit memory
    (answer, effect.map .absent)
  | .scripted unit =>
    let (answer, effect) := Accelerator.handle command unit memory
    (answer, effect.map .scripted)
  | .simulated unit =>
    let (answer, effect) := Accelerator.handle command unit memory
    (answer, effect.map .simulated)

def elapse (pause : Pause) (memory : Memory) : Target → Effect Target
  | .absent unit => (Accelerator.elapse pause unit memory).map .absent
  | .scripted unit => (Accelerator.elapse pause unit memory).map .scripted
  | .simulated unit => (Accelerator.elapse pause unit memory).map .simulated

instance : Accelerator Target where
  policy target := target.policy
  handle command target memory := target.handle command memory
  elapse pause target memory := target.elapse pause memory

end Target

end RoccCodec
