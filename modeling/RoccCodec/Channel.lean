import RoccCodec.Buffer
import RoccCodec.Fault
import RoccCodec.Tuning

namespace RoccCodec

/-!
# Command channels

A channel is one pipeline on one build.  It turns each field of the protocol
into a command with the code the pipeline has for it, or refuses the field.
-/

/-- The extra buffers of a request.  Of a workspace only the address is sent. -/
inductive ScratchSlot where
  | literals
  | sequences
  | workspace
  deriving DecidableEq, Repr

namespace ScratchSlot

def kind : ScratchSlot → CommandKind
  | .literals => .literalsInfo
  | .sequences => .sequencesInfo
  | .workspace => .workspaceInfo

end ScratchSlot

/-- A pipeline on a build that has it. -/
structure Channel where
  build : Build
  pipeline : Pipeline
  table : FunctTable
  present : build.table? pipeline = some table

namespace Channel

def open? (build : Build) (pipeline : Pipeline) : Except Fault Channel :=
  match present : build.table? pipeline with
  | some table => .ok ⟨build, pipeline, table, present⟩
  | none => .error (.pipelineUnavailable pipeline build)

/-- The width in which the unit writes completion words. -/
def width (channel : Channel) : SignalWidth := channel.table.signal

/-- The code of a command, or a refusal. -/
def code (channel : Channel) (kind : CommandKind) : Except Fault UInt8 :=
  match channel.table.code? kind with
  | some funct => .ok funct
  | none => .error (.unsupported channel.pipeline kind)

/-- Make the unit forget what it remembers of the page tables. -/
def fence (channel : Channel) : Command :=
  .bare channel.table.opcode channel.table.sfence

def push (channel : Channel) (parameter : Parameter) : Except Fault Command := do
  let funct ← channel.code parameter.kind
  return match parameter with
    | .history bytes => .single channel.table.opcode funct bytes
    | .hashTableLog2 log2 => .single channel.table.opcode funct log2
    | .latency latency => .pair channel.table.opcode funct latency.cycles latency.hasCache.toUInt64
    | .algorithm algorithm => .single channel.table.opcode funct algorithm.id

def source (channel : Channel) (buffer : Buffer) : Command :=
  .pair channel.table.opcode channel.table.srcInfo buffer.address buffer.length

def scratch (channel : Channel) (slot : ScratchSlot) (buffer : Buffer) : Except Fault Command := do
  let funct ← channel.code slot.kind
  return match slot with
    | .workspace => .single channel.table.opcode funct buffer.address
    | .literals | .sequences => .pair channel.table.opcode funct buffer.address buffer.length

/-- Send the destination and the completion word. -/
def destination (channel : Channel) (address word : UInt64) : Command :=
  .pair channel.table.opcode channel.table.destInfo address word

/-- Send the compression level, sign-extended to the operand. -/
def level (channel : Channel) (level : Int32) : Except Fault Command := do
  let funct ← channel.code .level
  return .single channel.table.opcode funct level.toInt64.toUInt64

/-- Ask the unit to answer once it is done. -/
def check (channel : Channel) : Command :=
  .response channel.table.opcode channel.table.checkCompletion

theorem open?_eq_ok_iff {build : Build} {pipeline : Pipeline} {channel : Channel} :
    open? build pipeline = .ok channel ↔ channel.build = build ∧ channel.pipeline = pipeline := by
  constructor
  · intro opened
    unfold open? at opened
    split at opened
    · simp only [Except.ok.injEq] at opened
      subst opened
      exact ⟨rfl, rfl⟩
    · simp at opened
  · rintro ⟨rfl, rfl⟩
    unfold open?
    split
    · rename_i table present
      have same : table = channel.table := by
        rw [channel.present] at present
        exact (Option.some.inj present).symm
      subst same
      rfl
    · rename_i absent
      rw [channel.present] at absent
      simp at absent

end Channel

end RoccCodec
