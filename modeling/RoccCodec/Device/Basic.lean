import RoccCodec.Device.Job

namespace RoccCodec

/-!
# Devices

A device stages the fields of a request for each pipeline until the start of
that pipeline arrives.  The fields are used up by the start, whether a job comes
of it or not; parameters stay until they are pushed again.  The codec of a unit
with several is chosen for the whole unit.  Taking a command never touches
memory: the jobs wait in a queue for the worker.
-/

/-- The fields of a request that have arrived.  The destination comes with the
address of the completion word. -/
structure Staging where
  source : Option Buffer
  literals : Option Buffer
  sequences : Option Buffer
  workspace : Option UInt64
  destination : Option (UInt64 × UInt64)
  level : Option Int32
  deriving DecidableEq, Repr

namespace Staging

def empty : Staging := ⟨none, none, none, none, none, none⟩

/-- Take a field in, if the command carries one.  A level is the low 32 bits
of its operand. -/
def stage (staging : Staging) (kind : CommandKind) (rs1 rs2 : UInt64) : Staging :=
  match kind with
  | .srcInfo => { staging with source := some ⟨rs1, rs2⟩ }
  | .literalsInfo => { staging with literals := some ⟨rs1, rs2⟩ }
  | .sequencesInfo => { staging with sequences := some ⟨rs1, rs2⟩ }
  | .workspaceInfo => { staging with workspace := some rs1 }
  | .destInfo => { staging with destination := some (rs1, rs2) }
  | .level => { staging with level := some rs1.toUInt32.toInt32 }
  | _ => staging

/-- The extra buffers of a pipeline, if they have arrived. -/
def auxiliary? (staging : Staging) : Pipeline → Option Auxiliary
  | .snappyCompress | .snappyDecompress => some .none
  | .zstdCompress => do return .streams (← staging.literals) (← staging.sequences)
  | .zstdDecompress => do return .workspace (← staging.workspace)

/-- The level of a request: zero where the pipeline takes none. -/
def level? (staging : Staging) : Pipeline → Option Int32
  | .zstdCompress => staging.level
  | _ => some 0

/-- The job of the fields, if all that the pipeline needs have arrived. -/
def job? (staging : Staging) (pipeline : Pipeline) (tuning : Tuning) : Option Job := do
  let source ← staging.source
  let (destination, word) ← staging.destination
  let auxiliary ← staging.auxiliary? pipeline
  let level ← staging.level? pipeline
  return { pipeline, source, auxiliary, destination, word, level, tuning }

end Staging

/-- The parameter a command pushes, if it pushes one that a unit keeps. -/
def CommandKind.parameter? (kind : CommandKind) (rs1 rs2 : UInt64) : Option Parameter :=
  match kind with
  | .history => some (.history rs1)
  | .hashTableLog2 => some (.hashTableLog2 rs1)
  | .latencyInjection => some (.latency ⟨rs1, rs2 != 0⟩)
  | _ => none

/-- What the worker of a device is at: it has `ran` a job and not counted it yet,
or `counted` a job and not stored its value yet. -/
inductive Worker where
  | idle
  | ran (job : Job) (value : Option UInt64)
  | counted (job : Job) (value : UInt64)
  deriving DecidableEq, Repr

/-- The units of one build.  The queue holds the started requests, the oldest
first.  A stalled request was started and will never complete. -/
structure Device where
  build : Build
  staging : PerPipeline Staging
  tuning : PerPipeline Tuning
  selected : PerOpcode (Option Algorithm)
  queue : List Job
  worker : Worker
  completed : Nat
  stalled : Nat
  deriving DecidableEq, Repr

namespace Device

def powerOn (build : Build) : Device where
  build
  staging := .replicate .empty
  tuning := .replicate .powerOn
  selected := .replicate none
  queue := []
  worker := .idle
  completed := 0
  stalled := 0

/-- The pipeline needs no choice of a codec on its slot, or has been chosen. -/
def isSelected (device : Device) (table : FunctTable) (pipeline : Pipeline) (slot : Opcode) :
    Bool :=
  table.selectAlgorithm.isNone || device.selected.get slot == some pipeline.algorithm

/-- Start the request staged on a pipeline. -/
def start (device : Device) (table : FunctTable) (pipeline : Pipeline) (slot : Opcode) :
    Device × List Notice :=
  let staging := device.staging.get pipeline
  let cleared := { device with staging := device.staging.set pipeline .empty }
  if device.isSelected table pipeline slot then
    match staging.job? pipeline (device.tuning.get pipeline) with
    | some job => ({ cleared with queue := device.queue ++ [job] }, [])
    | none => ({ cleared with stalled := device.stalled + 1 }, [.incompleteRequest])
  else
    ({ cleared with stalled := device.stalled + 1 }, [.unselectedStart])

/-- Choose the codec of the unit on a slot. -/
def select (device : Device) (slot : Opcode) (id : UInt64) : Device × List Notice :=
  match Algorithm.ofId? id with
  | some algorithm => ({ device with selected := device.selected.set slot (some algorithm) }, [])
  | none => (device, [.unknownAlgorithm])

/-- Keep a parameter that was pushed to a pipeline. -/
def latch (device : Device) (pipeline : Pipeline) (parameter : Parameter) : Device :=
  { device with tuning := device.tuning.modify pipeline (fun tuning => tuning.record parameter) }

/-- Keep a field of the next request of a pipeline. -/
def stage (device : Device) (pipeline : Pipeline) (kind : CommandKind) (rs1 rs2 : UInt64) :
    Device :=
  { device with
    staging := device.staging.modify pipeline (fun staging => staging.stage kind rs1 rs2) }

/-- Take a command in.  A fence and a completion check change nothing. -/
def accept (device : Device) (command : Command) : Device × List Notice :=
  match device.build.decode? command.opcode command.funct with
  | none => (device, [.unknownCommand])
  | some (pipeline, kind) =>
    match kind with
    | .selectAlgorithm => device.select command.opcode command.rs1
    | _ =>
      match kind.parameter? command.rs1 command.rs2 with
      | some parameter => (device.latch pipeline parameter, [])
      | none =>
        let staged := device.stage pipeline kind command.rs1 command.rs2
        match device.build.table? pipeline with
        | none => (staged, [])
        | some table =>
          if kind = table.startTrigger then staged.start table pipeline command.opcode
          else (staged, [])

/-- Count a request that has been run. -/
def count (device : Device) (completed : Bool) : Device :=
  if completed then { device with completed := device.completed + 1 }
  else { device with stalled := device.stalled + 1 }

/-- One step of the worker: run the oldest job, count it, store its value.  A
request is counted before its word is set, so a host that sees the word also
sees the count. -/
def step (codecs : Codecs) (device : Device) (memory : Memory) : Effect Device :=
  match device.worker with
  | .counted job value => .quiet { device with worker := .idle } (memory.store job.word value)
  | .ran job value =>
    let counted := device.count value.isSome
    match value with
    | some value => .quiet { counted with worker := .counted job value } memory
    | none => .quiet { counted with worker := .idle } memory
  | .idle =>
    match device.queue with
    | [] => .quiet device memory
    | job :: rest =>
      let effect := job.run codecs memory
      effect.map fun value => { device with queue := rest, worker := .ran job value }

/-- The steps the worker may have left. -/
def pending (device : Device) : Nat :=
  3 * device.queue.length +
    match device.worker with
    | .idle => 0
    | .counted .. => 1
    | .ran .. => 2

/-- So many steps of the worker. -/
def steps (codecs : Codecs) (device : Device) (memory : Memory) : Nat → Effect Device
  | 0 => .quiet device memory
  | count + 1 =>
    let first := device.step codecs memory
    let rest := first.unit.steps codecs first.memory count
    { rest with notices := first.notices ++ rest.notices }

/-- Let the worker finish all it has. -/
def finish (codecs : Codecs) (device : Device) (memory : Memory) : Effect Device :=
  device.steps codecs memory device.pending

end Device

end RoccCodec
