import RoccCodec.Accelerator
import RoccCodec.Build

namespace RoccCodec

/-!
# Scripted units

A scripted unit does no work: it answers a started request with a fixed value,
at once or when it is told to.  Several clients may share it.  It holds back one
answer at most, the one to the request that was started last.
-/

/-- When a scripted unit answers: at once, or when told to and when a stall is
reported. -/
inductive Promptness where
  | atOnce
  | onDemand
  deriving DecidableEq, Repr

/-- A unit that answers every request with the same value.  It keeps the
completion word last sent, zero for none, and the word an answer is due for. -/
structure Scripted where
  build : Build
  value : UInt64
  promptness : Promptness
  word : UInt64
  due : Option UInt64
  deriving DecidableEq, Repr

namespace Scripted

def start (build : Build) (value : UInt64) (promptness : Promptness) : Scripted :=
  ⟨build, value, promptness, 0, none⟩

/-- Give the answer that is due. -/
def answer (scripted : Scripted) (memory : Memory) : Effect Scripted :=
  match scripted.due with
  | some word => .quiet { scripted with due := none } (memory.store word scripted.value)
  | none => .quiet scripted memory

def drop (scripted : Scripted) : Scripted := { scripted with due := none }

/-- The unit as one client sees it, after another client has used it. -/
def shared (scripted other : Scripted) : Scripted := { scripted with due := other.due }

def handle (scripted : Scripted) (memory : Memory) (command : Command) : Effect Scripted :=
  match scripted.build.decode? command.opcode command.funct with
  | none => .quiet scripted memory
  | some (pipeline, kind) =>
    let told : Scripted := if kind = .destInfo then { scripted with word := command.rs2 } else scripted
    let starts := (scripted.build.table? pipeline).any fun table => kind == table.startTrigger
    if starts && told.word != 0 then
      let due : Scripted := { told with due := some told.word }
      match scripted.promptness with
      | .atOnce => due.answer memory
      | .onDemand => .quiet due memory
    else
      .quiet told memory

instance : Accelerator Scripted where
  policy _ := .bounded 1000
  handle command scripted memory := (0, scripted.handle memory command)
  elapse pause scripted memory :=
    if pause = .report then scripted.answer memory else .quiet scripted memory

end Scripted

end RoccCodec
