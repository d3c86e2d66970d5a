import RoccCodec.Command
import RoccCodec.Completion
import RoccCodec.Memory
import RoccCodec.Notice

namespace RoccCodec

/-!
# Accelerators

An accelerator answers one command at a time and may go on working in the
pauses of the host.  Only then does memory change without the host having
written to it, so a statement about every accelerator is one about every timing.
-/

/-- What the host does while an accelerator may be working: a command travels, a
completion word is about to be read again, a spent poll budget is reported, or
the host works on something of its own. -/
inductive Pause where
  | command
  | retry
  | report
  | hostWork
  deriving DecidableEq, Repr

/-- What an accelerator did: its next state, memory, and what there was to
warn about. -/
structure Effect (υ : Type) where
  unit : υ
  memory : Memory
  notices : List Notice

namespace Effect

variable {υ : Type}

/-- Memory and warnings stay as they were. -/
def quiet (unit : υ) (memory : Memory) : Effect υ := ⟨unit, memory, []⟩

/-- See the state of an accelerator as part of another one. -/
def map {ν : Type} (effect : Effect υ) (embed : υ → ν) : Effect ν :=
  ⟨embed effect.unit, effect.memory, effect.notices⟩

end Effect

/-- Something that commands can be sent to.  It answers a command with the value
for the destination register, goes on working in the pauses of the host, and
has a way in which waits on it poll unless they are told otherwise. -/
class Accelerator (υ : Type) where
  policy : υ → PollPolicy
  handle : Command → υ → Memory → UInt64 × Effect υ
  elapse : Pause → υ → Memory → Effect υ

/-- A host with an accelerator: the two share the memory.  The warnings come with
the oldest first, and `free` is the first address that has not been handed out. -/
structure Machine (υ : Type) where
  unit : υ
  memory : Memory
  notices : List Notice
  free : Nat

namespace Machine

variable {υ : Type}

/-- Where the first block of memory is handed out. -/
def firstAddress : Nat := 0x5A0000000000

def start (unit : υ) : Machine υ := ⟨unit, .blank, [], firstAddress⟩

def apply (machine : Machine υ) (effect : Effect υ) : Machine υ :=
  { machine with
    unit := effect.unit
    memory := effect.memory
    notices := machine.notices ++ effect.notices }

def notify (machine : Machine υ) (notice : Notice) : Machine υ :=
  { machine with notices := machine.notices ++ [notice] }

def load (machine : Machine υ) (address : UInt64) : UInt64 :=
  machine.memory.load address

def store (machine : Machine υ) (address word : UInt64) : Machine υ :=
  { machine with memory := machine.memory.store address word }

def read (machine : Machine υ) (address : UInt64) (length : Nat) : List UInt8 :=
  machine.memory.read address.toNat length

def write (machine : Machine υ) (address : UInt64) (bytes : List UInt8) : Machine υ :=
  { machine with memory := machine.memory.write address.toNat bytes }

/-- Hand out a block of zeroed memory that starts on a page.  A page stays
unused behind it. -/
def allocate (machine : Machine υ) (length : Nat) : UInt64 × Machine υ :=
  let pages := length / 4096 + 2
  (UInt64.ofNat machine.free, { machine with free := machine.free + pages * 4096 })

variable [Accelerator υ]

/-- Let the accelerator work during a pause of the host. -/
def elapse (machine : Machine υ) (pause : Pause) : Machine υ :=
  machine.apply (Accelerator.elapse pause machine.unit machine.memory)

/-- Send a command and wait for the value of its destination register. -/
def issue (machine : Machine υ) (command : Command) : UInt64 × Machine υ :=
  let (answer, effect) := Accelerator.handle command machine.unit machine.memory
  (answer, (machine.apply effect).elapse .command)

def issueAll (machine : Machine υ) (commands : List Command) : Machine υ :=
  commands.foldl (fun machine command => (machine.issue command).2) machine

@[simp] theorem issueAll_nil (machine : Machine υ) : machine.issueAll [] = machine := rfl

@[simp] theorem issueAll_cons (machine : Machine υ) (command : Command) (rest : List Command) :
    machine.issueAll (command :: rest) = (machine.issue command).2.issueAll rest := rfl

theorem issueAll_append (machine : Machine υ) (first second : List Command) :
    machine.issueAll (first ++ second) = (machine.issueAll first).issueAll second := by
  simp [issueAll]

end Machine

end RoccCodec
