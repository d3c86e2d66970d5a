import RoccCodec.Backend
import RoccCodec.Codec
import RoccCodec.Corpus
import RoccCodec.Facade
import RoccCodec.TuningGrid

namespace RoccCodec

/-!
# Benchmarks

A benchmark puts a corpus through one pipeline at every point of a tuning
grid, checks every output with the software codec, and measures every request.
All outputs of one point lie in one region.  The region is cleared for every
point and the first window starts one granule later than at the point before,
so nothing left over can pass for an output.
-/

/-- How to reach a pipeline and how to wait on it.  A policy stands in place of
what the backend asks for. -/
structure DeviceOptions where
  build : Build
  backend : Backend
  latency : Option Latency
  policy : Option PollPolicy
  deriving DecidableEq, Repr

/-- What a benchmark is about, apart from its corpus. -/
structure Benchmark where
  pipeline : Pipeline
  options : DeviceOptions
  grid : TuningGrid
  deriving DecidableEq, Repr

/-- An input in memory: what the pipeline is given for the sample, and the room
its output may need. -/
structure Item where
  sample : Sample
  source : Buffer
  room : Nat

/-- The buffers that stay the same through a benchmark.  The windows lie in the
region. -/
structure Layout where
  region : Buffer
  literals : Buffer
  sequences : Buffer
  workspace : Buffer

/-- A benchmark between two moves. -/
structure Stage (υ : Type) where
  facade : Facade
  machine : Machine υ
  point : Point
  cursor : Cursor

/-- Go to the point with a number, or make a request for an input. -/
inductive Move where
  | tune (number : Nat) (point : Point)
  | request (item : Item)

namespace Benchmark

/-- The shifts of the first window there are. -/
def shiftCount : Nat := Region.pageSize / Region.granule

/-- Where the first window starts at a point. -/
def shift (number : Nat) : Nat := number % shiftCount * Region.granule

/-- A call below the benchmark. -/
def call {α : Type} (result : Except Failure α) : Except RunError α := result.mapError .failed

/-- A call that leaves a state behind, to go on with. -/
def proceed {α σ : Type} (ended : Except Failure α × σ) : Except RunError (α × σ) :=
  (call ended.1).map fun value => (value, ended.2)

/-- A call that can only be refused. -/
def proceedFault {α σ : Type} (ended : Except Fault α × σ) : Except RunError (α × σ) :=
  proceed (Failure.ofFault ended.1, ended.2)

@[simp] theorem proceedFault_ok {α σ : Type} (value : α) (state : σ) :
    proceedFault (.ok value, state) = .ok (value, state) := rfl

section Accelerator

variable {υ : Type} [Accelerator υ]

def push (facade : Facade) (parameter : Parameter) (machine : Machine υ) :
    Except RunError (Facade × Machine υ) :=
  (proceedFault (facade.push parameter machine)).map Prod.snd

/-- Inject the latency into a pipeline that takes one, and warn about it at
the others. -/
def injectLatency (benchmark : Benchmark) (facade : Facade) (machine : Machine υ) :
    Except RunError (Facade × Machine υ) :=
  match benchmark.options.latency, benchmark.pipeline with
  | none, _ => .ok (facade, machine)
  | some _, .snappyCompress => .ok (facade, machine.notify .compressorLatencyIgnored)
  | some _, .snappyDecompress => .ok (facade, machine.notify .decompressorLatencyIgnored)
  | some latency, .zstdCompress | some latency, .zstdDecompress =>
    push facade (.latency latency) machine

/-- Open the pipeline and set it up as the options say. -/
def openFacade (benchmark : Benchmark) (unit : υ) : Except RunError (Facade × Machine υ) := do
  let options := benchmark.options
  let (facade, machine) ←
    (Facade.open? options.build benchmark.pipeline (.start unit)).mapError
      (.notOpened benchmark.pipeline)
  injectLatency benchmark { facade with policy := options.policy.getD facade.policy } machine

def allocate (length : Nat) (machine : Machine υ) :
    Except RunError (Buffer × Machine υ) :=
  proceedFault (Facade.allocateRegion length machine)

/-- Allocate the buffers the unit works in: at worst, every byte of an input
is a literal or starts a sequence. -/
def allocateScratch (benchmark : Benchmark) (corpus : Corpus) (machine : Machine υ) :
    Except RunError (Layout × Machine υ) := do
  let length := max corpus.maxLength 1
  match benchmark.pipeline with
  | .snappyCompress | .snappyDecompress => return (⟨default, default, default, default⟩, machine)
  | .zstdCompress =>
    let (literals, machine) ← allocate length machine
    let (sequences, machine) ← allocate length machine
    return (⟨default, literals, sequences, default⟩, machine)
  | .zstdDecompress =>
    let (workspace, machine) ← allocate length machine
    return (⟨default, default, default, workspace⟩, machine)

/-- What the pipeline is given for a sample: the sample itself, or its form
as the codec of the host compresses it. -/
def feed (codecs : Codecs) (benchmark : Benchmark) (sample : Sample) :
    Except RunError (List UInt8) :=
  if benchmark.pipeline.isCompression then .ok sample.data
  else
    match codecs.compress? benchmark.grid.level benchmark.pipeline.algorithm sample.data with
    | some compressed => .ok compressed
    | none => .error (.notCompressed sample.name sample.data.length)

def room (benchmark : Benchmark) (sample : Sample) : Except RunError Nat :=
  if benchmark.pipeline.isCompression then
    call (Failure.ofOverflow (benchmark.pipeline.algorithm.bound sample.data.length))
  else .ok sample.data.length

def place (machine : Machine υ) :
    List (Sample × List UInt8 × Nat) → List Item × Machine υ
  | [] => ([], machine)
  | (sample, bytes, room) :: rest =>
    let (address, machine) := machine.allocate bytes.length
    let (items, machine) := place (machine.write address bytes) rest
    (⟨sample, ⟨address, UInt64.ofNat bytes.length⟩, room⟩ :: items, machine)

/-- Everything up to the first move. -/
def prepare (codecs : Codecs) (benchmark : Benchmark) (corpus : Corpus) (unit : υ) :
    Except RunError (Layout × List Item × Stage υ) := do
  let (facade, machine) ← benchmark.openFacade unit
  let (scratch, machine) ← benchmark.allocateScratch corpus machine
  let feeds ← corpus.samples.mapM (benchmark.feed codecs)
  let rooms ← corpus.samples.mapM benchmark.room
  let capacity ← call (Failure.ofOverflow (Region.capacity rooms))
  let history := benchmark.grid.firstHistory
  let (region, facade, machine) ← proceedFault (facade.setupRegion capacity (some history) machine)
  let (items, machine) := place machine (corpus.samples.zip (feeds.zip rooms))
  let stage : Stage υ := ⟨facade, machine, ⟨history, none⟩, .start region.length.toNat⟩
  return ({ scratch with region }, items, stage)

/-- The moves over some inputs: for every point, go there and make a request
for every input. -/
def moves (benchmark : Benchmark) (items : List Item) : List Move :=
  (benchmark.grid.points benchmark.pipeline).zipIdx.flatMap fun (point, number) =>
    .tune number point :: items.map .request

def tune (facade : Facade) (machine : Machine υ) (point : Point) :
    Except RunError (Facade × Machine υ) := do
  let (facade, machine) ← push facade (.history point.history) machine
  match point.hashTableLog2 with
  | none => return (facade, machine)
  | some log2 => push facade (.hashTableLog2 log2) machine

/-- The length of the output that counts, and whether it is right. -/
def judge (codecs : Codecs) (benchmark : Benchmark) (item : Item) (window : Buffer)
    (completion : Completion) (machine : Machine υ) : Nat × Bool :=
  let data := item.sample.data
  if benchmark.pipeline.isCompression then
    let produced := min completion.produced.toNat window.length.toNat
    (produced,
      codecs.verifies benchmark.pipeline.algorithm (machine.read window.address produced) data)
  else
    (data.length, completion.success && machine.read window.address data.length == data)

def mismatch (benchmark : Benchmark) : Notice :=
  if benchmark.pipeline.isCompression then .compressedMismatch else .decompressedMismatch

/-- Make a move.  A request leaves a record, whose time is only what has to be
added to the time that is measured. -/
def move (codecs : Codecs) (benchmark : Benchmark) (layout : Layout) (stage : Stage υ) :
    Move → Except RunError (Stage υ × Option Record)
  | .tune number point => do
    let (facade, machine) ← tune stage.facade stage.machine point
    let length := layout.region.length.toNat
    let machine := machine.write layout.region.address (List.replicate length 0)
    let (_, cursor) ← proceedFault ((Cursor.start length).skip (shift number))
    return (⟨facade, machine, point, cursor⟩, none)
  | .request item => do
    let (window, cursor) ← proceed (stage.cursor.carve item.room)
    let destination : Buffer :=
      ⟨layout.region.address + UInt64.ofNat window.offset, UInt64.ofNat window.length⟩
    let task := Task.ofBuffers item.source destination layout.literals layout.sequences
      layout.workspace benchmark.grid.level stage.facade.channel.pipeline
    let (completion, facade, machine) ← proceed (stage.facade.run task stage.machine)
    let (outputLength, verified) := benchmark.judge codecs item destination completion machine
    let machine := if verified then machine else machine.notify benchmark.mismatch
    let elapsed := benchmark.options.backend.delay facade.tuning
    let inputLength := item.source.length.toNat
    let record : Record :=
      ⟨item.sample.name, stage.point, elapsed, inputLength, outputLength, verified⟩
    return ({ stage with facade, machine, cursor }, some record)

/-- A record of a request that took some time more. -/
def lasted (record : Record) (time : Nat) : Record :=
  { record with elapsed := min (record.elapsed + time) (Length.limit - 1) }

def label (benchmark : Benchmark) : String :=
  let direction := if benchmark.pipeline.isCompression then "compress" else "decompress"
  s!"{benchmark.options.build.name} {benchmark.pipeline.algorithm.name} {direction}"

variable {m : Type → Type} [Monad m]

/-- Make moves one after the other, and look at the clock around each. -/
def timed (codecs : Codecs) (now : m Nat) (benchmark : Benchmark) (layout : Layout)
    (stage : Stage υ) : List Move → ExceptT RunError m (Stage υ × List Record)
  | [] => return (stage, [])
  | next :: rest => do
    let start ← now
    let (stage, record) ← benchmark.move codecs layout stage next
    let stop ← now
    let (stage, records) ← timed codecs now benchmark layout stage rest
    return (stage, (record.map fun record => lasted record (stop - start)).toList ++ records)

/-- Run the benchmark over a corpus on this accelerator.  The result comes with the
warnings there were. -/
def runOn (codecs : Codecs) (now : m Nat) (benchmark : Benchmark) (corpus : Corpus) (unit : υ) :
    ExceptT RunError m (Totals × List Notice) := do
  let (layout, items, stage) ← benchmark.prepare codecs corpus unit
  let (stage, records) ← benchmark.timed codecs now layout stage (benchmark.moves items)
  let totals ← call (Failure.ofOverflow (Totals.ofRecords benchmark.label records))
  return (totals, stage.machine.notices)

end Accelerator

variable {m : Type → Type} [Monad m]

def run (outfit : Outfit) (now : m Nat) (benchmark : Benchmark) (corpus : Corpus) :
    ExceptT RunError m (Totals × List Notice) := do
  let options := benchmark.options
  match ← options.backend.target outfit options.build with
  | .absent unit => benchmark.runOn outfit.codecs now corpus unit
  | .scripted unit => benchmark.runOn outfit.codecs now corpus unit
  | .simulated unit => benchmark.runOn outfit.codecs now corpus unit

def runAll (outfit : Outfit) (now : m Nat) (corpus : Corpus) (benchmarks : List Benchmark) :
    ExceptT RunError m (List (Totals × List Notice)) :=
  benchmarks.mapM fun benchmark => benchmark.run outfit now corpus

end Benchmark

end RoccCodec
