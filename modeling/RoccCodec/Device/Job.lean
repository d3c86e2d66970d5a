import RoccCodec.Device.Codecs
import RoccCodec.Request
import RoccCodec.Zstd.Header

namespace RoccCodec

/-!
# Jobs

A job is a request as a unit holds it after the start, with the parameters of
that moment.  Running it does not touch the completion word.  A job that fails
has no value to put there, so its request never completes.
-/

/-- A started request: `destination` is where the output goes, and `word` is the
address of the completion word. -/
structure Job where
  pipeline : Pipeline
  source : Buffer
  auxiliary : Auxiliary
  destination : UInt64
  word : UInt64
  level : Int32
  tuning : Tuning
  deriving DecidableEq, Repr

/-- The smallest and the largest window a unit compresses with, as binary
logarithms.  The largest is one every decoder keeps. -/
def windowLogRange : Nat × Nat := (10, 27)

/-- The clear bits in front of the first one that is set. -/
def leadingZeros (word : UInt64) : Fin 65 :=
  ⟨word.toBitVec.clz.toNat, Nat.lt_succ_of_le (BitVec.le_def.mp word.toBitVec.clz_le)⟩

/-- The smallest window, as its binary logarithm, that covers a history of so
many bytes, held within the range of the unit. -/
def windowLog (history : UInt64) : Nat :=
  let below := UInt64.ofNat (max history.toNat 1 - 1)
  let covering := 64 - (leadingZeros below).val
  min (max covering windowLogRange.1) windowLogRange.2

/-- The smallest and the largest hash table a unit compresses with, as binary
logarithms. -/
def hashLogRange : Nat × Nat := (6, 30)

/-- A hash table size, held within the range of the unit. -/
def hashLog (log2 : UInt64) : Nat :=
  min (max log2.toNat hashLogRange.1) hashLogRange.2

namespace Job

def contents (job : Job) (memory : Memory) : List UInt8 :=
  memory.read job.source.address.toNat job.source.length.toNat

/-- The scratch buffers of a compression cover its source. -/
def scratchCovers (job : Job) : Bool :=
  match job.auxiliary with
  | .streams literals sequences =>
    decide (job.source.length ≤ literals.length) && decide (job.source.length ≤ sequences.length)
  | .none | .workspace _ => true

/-- What the codec of the job makes of a source.  A Zstd stream has to declare
a size in its first frame and to decode to exactly that size. -/
def codec (codecs : Codecs) (job : Job) (source : List UInt8) : Option (List UInt8) :=
  match job.pipeline with
  | .snappyCompress => codecs.snappyEncode source
  | .snappyDecompress => codecs.snappyDecode source
  | .zstdCompress =>
    codecs.zstdEncode job.level (job.tuning.history.map windowLog)
      (job.tuning.hashTableLog2.map hashLog) source
  | .zstdDecompress =>
    match Zstd.contentSize source with
    | .error _ => none
    | .ok declared => do
      let content ← codecs.zstdDecode source
      if content.size = declared then some content.bytes else none

/-- Put the source where the literals go: at worst, every byte is one. -/
def writeLiterals (job : Job) (memory : Memory) : Memory :=
  match job.auxiliary with
  | .streams literals _ => memory.write literals.address.toNat (job.contents memory)
  | .none | .workspace _ => memory

/-- Put the output into the workspace, if there is one, and to the destination. -/
def writeOutput (job : Job) (output : List UInt8) (memory : Memory) : Memory :=
  let memory :=
    match job.auxiliary with
    | .workspace address => memory.write address.toNat output
    | .none | .streams .. => memory
  memory.write job.destination.toNat output

/-- The value of the completion word: the size of a compressed output, or one. -/
def value (job : Job) (output : List UInt8) : UInt64 :=
  if job.pipeline.isCompression then UInt64.ofNat output.length else 1

/-- Run the job.  The literals are written before the codec reads the source. -/
def run (codecs : Codecs) (job : Job) (memory : Memory) : Effect (Option UInt64) :=
  if job.scratchCovers then
    let memory := job.writeLiterals memory
    match job.codec codecs (job.contents memory) with
    | some output => .quiet (some (job.value output)) (job.writeOutput output memory)
    | none => ⟨none, memory, [.rejectedRequest]⟩
  else
    ⟨none, memory, [.shortScratch]⟩

theorem run_of_scratchCovers {job : Job} (covers : job.scratchCovers = true) (codecs : Codecs)
    (memory : Memory) :
    job.run codecs memory =
      match job.codec codecs (job.contents (job.writeLiterals memory)) with
      | some output => .quiet (some (job.value output)) (job.writeOutput output
          (job.writeLiterals memory))
      | none => ⟨none, job.writeLiterals memory, [.rejectedRequest]⟩ :=
  if_pos covers

end Job

end RoccCodec
