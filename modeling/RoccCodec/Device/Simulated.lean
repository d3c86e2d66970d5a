import RoccCodec.Device.Basic

namespace RoccCodec

/-!
# Simulated devices

Inline, every job is finished before the command that started it has been
answered.  With a worker of its own, a device works during the pauses of the
host, as many steps at a time as a schedule says.  What holds for every schedule
holds however the two sides interleave.
-/

/-- How many steps the worker makes in the pause with the given number. -/
abbrev Schedule : Type := Pause → Nat → Nat

namespace Schedule

/-- The worker rests while commands travel, and finishes a great deal of work
in every other pause. -/
def relaxed : Schedule := fun pause _ =>
  match pause with
  | .command => 0
  | .retry | .report | .hostWork => 0x10000

end Schedule

/-- Who works on the jobs of a device: the command that starts a job, or a worker
beside the host. -/
inductive Mode where
  | inline
  | threaded (schedule : Schedule)

/-- A device, the codecs it runs its jobs with, how it works, and how many pauses
there have been. -/
structure Simulated where
  device : Device
  codecs : Codecs
  mode : Mode
  pauses : Nat

namespace Simulated

/-- The units of a build after power-on, with the given codecs. -/
def powerOnWith (codecs : Codecs) (build : Build) (mode : Mode) : Simulated :=
  ⟨.powerOn build, codecs, mode, 0⟩

def powerOn (build : Build) (mode : Mode) : Simulated := powerOnWith .software build mode

/-- Take a command in, and work on it if the mode is inline. -/
def handle (simulated : Simulated) (memory : Memory) (command : Command) : Effect Simulated :=
  let (device, notices) := simulated.device.accept command
  match simulated.mode with
  | .inline =>
    let effect := device.finish simulated.codecs memory
    ⟨{ simulated with device := effect.unit }, effect.memory, notices ++ effect.notices⟩
  | .threaded _ => ⟨{ simulated with device }, memory, notices⟩

def elapse (simulated : Simulated) (memory : Memory) (pause : Pause) : Effect Simulated :=
  match simulated.mode with
  | .inline => .quiet simulated memory
  | .threaded schedule =>
    let count := min (schedule pause simulated.pauses) simulated.device.pending
    (simulated.device.steps simulated.codecs memory count).map fun device =>
      { simulated with device, pauses := simulated.pauses + 1 }

def finish (simulated : Simulated) (memory : Memory) : Effect Simulated :=
  (simulated.device.finish simulated.codecs memory).map fun device => { simulated with device }

instance : Accelerator Simulated where
  policy _ := .spin
  handle command simulated memory := (0, simulated.handle memory command)
  elapse pause simulated memory := simulated.elapse memory pause

end Simulated

end RoccCodec
