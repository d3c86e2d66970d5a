import RoccCodec.Codec
import RoccCodec.Facade
import RoccCodec.Proofs.Device.Service

namespace RoccCodec

/-!
# Tasks and the memory they work in

A task works in its source, its destination and its scratch buffers, and its
call adds the completion word.  If these are apart, a unit that runs the job of
the task reads the source as the caller left it, keeps off the word, and leaves
the output in the destination if its codec makes one (`Task.settles`).
-/

namespace Task

variable {pipeline : Pipeline}

def source : Task pipeline → Buffer
  | .snappyCompress source _ => source
  | .snappyDecompress source _ => source
  | .zstdCompress source _ _ _ _ => source
  | .zstdDecompress source _ _ => source

def destination : Task pipeline → Buffer
  | .snappyCompress _ destination => destination
  | .snappyDecompress _ destination => destination
  | .zstdCompress _ _ _ destination _ => destination
  | .zstdDecompress _ _ destination => destination

def scratch : Task pipeline → List Buffer
  | .snappyCompress _ _ => []
  | .snappyDecompress _ _ => []
  | .zstdCompress _ literals sequences _ _ => [literals, sequences]
  | .zstdDecompress _ workspace _ => [workspace]

def auxiliary : Task pipeline → Auxiliary
  | .snappyCompress _ _ => .none
  | .snappyDecompress _ _ => .none
  | .zstdCompress _ literals sequences _ _ => .streams literals sequences
  | .zstdDecompress _ workspace _ => .workspace workspace.address

def level : Task pipeline → Option Int32
  | .zstdCompress _ _ _ _ level => some level
  | _ => none

/-- What is sent for a task. -/
def message (task : Task pipeline) : Request :=
  ⟨task.source, task.auxiliary, task.destination, task.level⟩

/-- The job that comes of a task. -/
def job (task : Task pipeline) (word : UInt64) (tuning : Tuning) : Job :=
  task.message.job pipeline word tuning

/-- Room for a content of one size in the scratch buffers, and for an output of
another in the destination. -/
structure Holds (task : Task pipeline) (content output : Nat) : Prop where
  scratch : ∀ buffer ∈ task.scratch, content ≤ buffer.length.toNat
  destination : output ≤ task.destination.length.toNat

/-- The memory of a call. -/
def buffers (task : Task pipeline) (word : UInt64) : List Buffer :=
  .ofWord word :: task.source :: task.destination :: task.scratch

/-- The address belongs to the memory of a call. -/
def Owns (task : Task pipeline) (word : UInt64) (address : Nat) : Prop :=
  ∃ buffer ∈ task.buffers word, buffer.Covers address

theorem checkDestination_eq_ok_iff {needed : Nat} {destination : Buffer} {granted : Unit} :
    checkDestination needed destination = .ok granted ↔ needed ≤ destination.length.toNat := by
  unfold checkDestination
  split <;> simp [*]

theorem checkScratch_eq_ok_iff {needed available : Nat} {granted : Unit} :
    checkScratch needed available = .ok granted ↔ needed ≤ available := by
  unfold checkScratch
  split <;> simp [*]

/-- A compression is sent if there is room for the bound of its source. -/
theorem request_of_compression {task : Task pipeline} (compresses : pipeline.isCompression = true)
    {memory : Memory} {request : Request} :
    task.request memory = .ok request ↔ request = task.message ∧
      ∃ bound, pipeline.algorithm.bound task.source.length.toNat = .ok bound ∧
        task.Holds task.source.length.toNat bound := by
  cases task with
  | snappyCompress source target =>
      simp only [Task.request, bind_eq_ok_iff, Failure.ofOverflow_eq_ok_iff, checkDestination_eq_ok_iff]
      constructor
      · rintro ⟨bound, bounded, _, fits, ⟨⟩⟩
        exact ⟨rfl, bound, bounded, by simp [scratch], fits⟩
      · rintro ⟨rfl, bound, bounded, _, fits⟩
        exact ⟨bound, bounded, (), fits, rfl⟩
  | zstdCompress source literals sequences target level =>
      simp only [Task.request, bind_eq_ok_iff, Failure.ofOverflow_eq_ok_iff,
        checkDestination_eq_ok_iff, checkScratch_eq_ok_iff, Nat.le_min]
      constructor
      · rintro ⟨bound, bounded, _, fits, _, covers, ⟨⟩⟩
        exact ⟨rfl, bound, bounded, by simpa [scratch, Task.source] using covers, fits⟩
      · rintro ⟨rfl, bound, bounded, covers, fits⟩
        exact ⟨bound, bounded, (), fits, (), by simpa [scratch, Task.source] using covers, rfl⟩
  | snappyDecompress => simp [Pipeline.isCompression] at compresses
  | zstdDecompress => simp [Pipeline.isCompression] at compresses

/-- A decompression is sent if there is room for the size that its source declares. -/
theorem request_of_decompression {task : Task pipeline}
    (decompresses : pipeline.isCompression = false) {memory : Memory} {request : Request} :
    task.request memory = .ok request ↔ request = task.message ∧
      ∃ size, pipeline.algorithm.declaredLength (contents memory task.source) = .ok size ∧
        task.Holds size size := by
  cases task with
  | snappyDecompress source target =>
      simp only [Task.request, bind_eq_ok_iff, Failure.ofFault_eq_ok_iff, checkDestination_eq_ok_iff]
      constructor
      · rintro ⟨size, declared, _, fits, ⟨⟩⟩
        exact ⟨rfl, size, declared, by simp [scratch], fits⟩
      · rintro ⟨rfl, size, declared, _, fits⟩
        exact ⟨size, declared, (), fits, rfl⟩
  | zstdDecompress source workspace target =>
      simp only [Task.request, bind_eq_ok_iff, Failure.ofFault_eq_ok_iff,
        checkDestination_eq_ok_iff, checkScratch_eq_ok_iff]
      constructor
      · rintro ⟨size, declared, _, fits, _, covers, ⟨⟩⟩
        exact ⟨rfl, size, declared, by simpa [scratch] using covers, fits⟩
      · rintro ⟨rfl, size, declared, covers, fits⟩
        exact ⟨size, declared, (), fits, (), by simpa [scratch] using covers, rfl⟩
  | snappyCompress => simp [Pipeline.isCompression] at decompresses
  | zstdCompress => simp [Pipeline.isCompression] at decompresses

theorem eq_message_of_request {task : Task pipeline} {memory : Memory} {request : Request}
    (requested : task.request memory = .ok request) : request = task.message := by
  cases compresses : pipeline.isCompression with
  | true => exact ((request_of_compression compresses).mp requested).1
  | false => exact ((request_of_decompression compresses).mp requested).1

/-- The scratch buffers of a compression that is sent hold its source. -/
theorem scratch_of_request {task : Task pipeline} {memory : Memory} {request : Request}
    (requested : task.request memory = .ok request) (compresses : pipeline.isCompression = true) :
    ∀ buffer ∈ task.scratch, task.source.length.toNat ≤ buffer.length.toNat := by
  rcases (request_of_compression compresses).mp requested with ⟨_, bound, _, room⟩
  exact room.scratch

theorem source_apart_destination {task : Task pipeline} {word : UInt64}
    (apart : (task.buffers word).Pairwise Buffer.Apart) :
    task.source.Apart task.destination := by
  have source := (List.pairwise_cons.mp apart).2
  exact (List.pairwise_cons.mp source).1 _ List.mem_cons_self

theorem check_message {task : Task pipeline} {channel : Channel}
    (serves : channel.pipeline = pipeline) (apart : task.source.Apart task.destination) :
    task.message.check channel = .ok () := by
  subst serves
  have leveled := Build.isSome_level_iff channel.present
  have levels : task.level.isSome = channel.table.level.isSome := by
    rw [Bool.eq_iff_iff, leveled]
    generalize channel.pipeline = pipeline at task
    cases task <;> simp [level]
  have suits : task.auxiliary.suits channel.pipeline = true := by
    generalize channel.pipeline = pipeline at task
    cases task <;> rfl
  simp [Request.check, message, suits, levels, apart.overlaps_eq_false]

/-! ## What the job of a task writes -/

section Writes

variable {task : Task pipeline} {own : Nat → Prop} {output : List UInt8}

theorem agree_writeLiterals
    (foreign : ∀ buffer ∈ task.scratch, ∀ address, own address → ¬ buffer.Covers address)
    (room : pipeline.isCompression = true →
      ∀ buffer ∈ task.scratch, task.source.length.toNat ≤ buffer.length.toNat)
    (word : UInt64) (tuning : Tuning) (memory : Memory) :
    Memory.Agree own ((task.job word tuning).writeLiterals memory) memory := by
  cases task with
  | zstdCompress source literals sequences target level =>
      apply Memory.agree_write
      · rw [Job.contents, Memory.length_read]
        exact room rfl literals (by simp [Task.scratch])
      · exact foreign literals (by simp [Task.scratch])
  | _ => exact .refl own memory

theorem agree_writeOutput
    (foreign : ∀ buffer ∈ task.scratch, ∀ address, own address → ¬ buffer.Covers address)
    (apart : ∀ address, own address → ¬ task.destination.Covers address)
    (room : pipeline.isCompression = false →
      ∀ buffer ∈ task.scratch, output.length ≤ buffer.length.toNat)
    (fits : output.length ≤ task.destination.length.toNat)
    (word : UInt64) (tuning : Tuning) (memory : Memory) :
    Memory.Agree own ((task.job word tuning).writeOutput output memory) memory := by
  cases task with
  | zstdDecompress source workspace target =>
      have first : Memory.Agree own (memory.write workspace.address.toNat output) memory := by
        apply Memory.agree_write
        · exact room rfl workspace (by simp [Task.scratch])
        · exact foreign workspace (by simp [Task.scratch])
      exact (Memory.agree_write _ fits apart).trans first
  | _ => exact Memory.agree_write memory fits apart

theorem scratchCovers_job
    (room : pipeline.isCompression = true →
      ∀ buffer ∈ task.scratch, task.source.length.toNat ≤ buffer.length.toNat)
    (word : UInt64) (tuning : Tuning) : (task.job word tuning).scratchCovers = true := by
  cases task with
  | zstdCompress source literals sequences target level =>
      have covers := room rfl
      simp only [Task.scratch, List.mem_cons, List.not_mem_nil, or_false, forall_eq_or_imp,
        forall_eq] at covers
      change (decide (source.length ≤ literals.length) && decide (source.length ≤ sequences.length))
        = true
      rw [Bool.and_eq_true, decide_eq_true_eq, decide_eq_true_eq]
      exact covers
  | _ => rfl

end Writes

/-- A unit that runs the job of a task, with the memory of the call as it was at
the start, ends as its codec does.  The output goes to the destination, and the
word stays clear until the job has been counted. -/
theorem settles {task : Task pipeline} {word : UInt64} {codecs : Codecs} {tuning : Tuning}
    {start : Memory} {most : Nat}
    (apart : (task.buffers word).Pairwise Buffer.Apart) (clear : start.load word = 0)
    (room : task.Holds (if pipeline.isCompression then task.source.length.toNat else most) most)
    (fits : ∀ output ∈ (task.job word tuning).codec codecs (contents start task.source),
      output.length ≤ most) :
    (task.job word tuning).Settles codecs (task.Owns word) start
      (((task.job word tuning).codec codecs (contents start task.source)).map
        (task.job word tuning).value)
      (fun memory => ∀ output ∈ (task.job word tuning).codec codecs (contents start task.source),
        memory.read task.destination.address.toNat output.length = output) := by
  rcases room with ⟨scratch, roomy⟩
  simp only [buffers, List.pairwise_cons, List.mem_cons, forall_eq_or_imp] at apart
  rcases apart with ⟨⟨wordSource, wordDestination, wordScratch⟩,
    ⟨sourceDestination, sourceScratch⟩, _⟩
  have literals : pipeline.isCompression = true →
      ∀ buffer ∈ task.scratch, task.source.length.toNat ≤ buffer.length.toNat := by
    intro compresses
    simpa [compresses] using scratch
  have ownsWord : ∀ address, (Buffer.ofWord word).Covers address → task.Owns word address :=
    fun address covered => ⟨_, List.mem_cons_self, covered⟩
  have ownsSource : ∀ address, task.source.Covers address → task.Owns word address :=
    fun address covered => ⟨_, List.mem_cons_of_mem _ List.mem_cons_self, covered⟩
  constructor
  · intro memory same
    exact (same.load ownsWord).trans clear
  · intro memory same
    have before : (task.job word tuning).contents memory = contents start task.source :=
      same.read ownsSource (Nat.le_refl _)
    have kept : (task.job word tuning).contents ((task.job word tuning).writeLiterals memory) =
        (task.job word tuning).contents memory :=
      (agree_writeLiterals sourceScratch literals word tuning memory).read (fun _ => id)
        (Nat.le_refl _)
    have untouched := agree_writeLiterals wordScratch literals word tuning memory
    rw [Job.run_of_scratchCovers (scratchCovers_job literals word tuning), kept, before]
    cases coded : (task.job word tuning).codec codecs (contents start task.source) with
    | none =>
        refine ⟨_, _, rfl, ?_, by simp⟩
        exact (untouched.load fun _ => id).trans ((same.load ownsWord).trans clear)
    | some output =>
        have small : output.length ≤ most := fits output coded
        have workspace : pipeline.isCompression = false →
            ∀ buffer ∈ task.scratch, output.length ≤ buffer.length.toNat := by
          intro decompresses buffer member
          have room := scratch buffer member
          rw [decompresses] at room
          exact small.trans room
        have written := (agree_writeOutput wordScratch wordDestination workspace
          (small.trans roomy) word tuning ((task.job word tuning).writeLiterals memory)).trans
            untouched
        refine ⟨_, _, rfl, ?_, ?_⟩
        · exact (written.load fun _ => id).trans ((same.load ownsWord).trans clear)
        · rintro output ⟨⟩
          have set := Memory.agree_store ((task.job word tuning).writeOutput output
            ((task.job word tuning).writeLiterals memory)) wordDestination.symm
              ((task.job word tuning).value output)
          exact (set.read (fun _ => id) (small.trans roomy)).trans (Memory.read_write _ _ _)

end Task

namespace Facade

variable {υ : Type} [Accelerator υ] {facade : Facade} {task : Task facade.channel.pipeline}
  {machine sent : Machine υ}

/-- A facade sends what its task makes, and then leaves the rest to the channel. -/
theorem dispatch_eq_ok_iff :
    facade.dispatch task machine = (.ok (), sent) ↔
      task.request machine.memory = .ok task.message ∧
        facade.channel.dispatch task.message facade.word machine = (.ok (), sent) := by
  unfold dispatch
  cases requested : task.request machine.memory with
  | error failure => simp
  | ok request =>
      cases Task.eq_message_of_request requested
      simp [Prod.ext_iff, Failure.ofFault_eq_ok_iff]

/-- A request that is not sent leaves the machine as it was. -/
theorem dispatch_of_error {failure : Failure}
    (refused : facade.dispatch task machine = (.error failure, sent)) : sent = machine := by
  unfold dispatch at refused
  cases requested : task.request machine.memory with
  | error found =>
      rw [requested] at refused
      cases refused
      rfl
  | ok request =>
      simp only [requested] at refused
      rcases dispatched : facade.channel.dispatch request facade.word machine with ⟨_ | _, after⟩ <;>
        rw [dispatched] at refused <;> cases refused
      exact (Channel.dispatch_of_error dispatched).2

end Facade

end RoccCodec
