import Mathlib.Data.List.Forall2
import RoccCodec.Device.Basic
import RoccCodec.Proofs.Footprint

namespace RoccCodec

/-!
# What a job does to memory

A job puts its bytes at a few addresses and keeps off all the others.  These
places are listed here as `Deposit`s, and `Memory.Gains` says of two memories
that they differ in just a list of them.  `Device.changes_exactly` follows a
device while it serves one job.  It leaves the deposits of a job that
completes, and of a job that fails at most the copy of its source.
-/

/-- Bytes, and the address of the first of them. -/
structure Deposit where
  start : Nat
  bytes : List UInt8
  deriving DecidableEq, Repr

namespace Deposit

def Covers (deposit : Deposit) (address : Nat) : Prop :=
  deposit.start ≤ address ∧ address < deposit.start + deposit.bytes.length

def Apart (first second : Deposit) : Prop :=
  ∀ address, first.Covers address → ¬ second.Covers address

/-- The deposit fills the buffer from its first address on. -/
structure Fits (deposit : Deposit) (buffer : Buffer) : Prop where
  start : deposit.start = buffer.address.toNat
  length : deposit.bytes.length ≤ buffer.length.toNat

theorem Fits.covers {deposit : Deposit} {buffer : Buffer} (fits : deposit.Fits buffer)
    {address : Nat} (covered : deposit.Covers address) : buffer.Covers address := by
  rcases fits with ⟨start, length⟩
  rcases covered with ⟨above, below⟩
  constructor <;> omega

variable {deposits : List Deposit} {buffers : List Buffer}

theorem exists_buffer (fits : List.Forall₂ Fits deposits buffers) {deposit : Deposit}
    (member : deposit ∈ deposits) : ∃ buffer ∈ buffers, deposit.Fits buffer := by
  induction fits with
  | nil => cases member
  | cons head _ hypothesis =>
    rcases List.mem_cons.mp member with rfl | member
    · exact ⟨_, List.mem_cons_self, head⟩
    · rcases hypothesis member with ⟨buffer, among, fits⟩
      exact ⟨buffer, List.mem_cons_of_mem _ among, fits⟩

/-- Deposits into buffers that are apart are apart. -/
theorem pairwise_apart (fits : List.Forall₂ Fits deposits buffers)
    (apart : buffers.Pairwise Buffer.Apart) : deposits.Pairwise Apart := by
  induction fits with
  | nil => exact .nil
  | cons head rest hypothesis =>
    rcases List.pairwise_cons.mp apart with ⟨first, others⟩
    refine .cons (fun other member address covered => ?_) (hypothesis others)
    rcases exists_buffer rest member with ⟨buffer, among, fits⟩
    exact fun both => first buffer among address (head.covers covered) (fits.covers both)

/-- A buffer that is apart from those of the deposits is covered by none of them. -/
theorem not_covers_of_apart (fits : List.Forall₂ Fits deposits buffers) {other : Buffer}
    (apart : ∀ buffer ∈ buffers, buffer.Apart other) {address : Nat}
    (covered : other.Covers address) : ∀ deposit ∈ deposits, ¬ deposit.Covers address := by
  intro deposit member both
  rcases exists_buffer fits member with ⟨buffer, among, fits⟩
  exact apart buffer among address (fits.covers both) covered

end Deposit

namespace Memory

def writeAll (memory : Memory) (deposits : List Deposit) : Memory :=
  deposits.foldl (fun memory deposit => memory.write deposit.start deposit.bytes) memory

theorem writeAll_append (memory : Memory) (first second : List Deposit) :
    memory.writeAll (first ++ second) = (memory.writeAll first).writeAll second :=
  List.foldl_append

/-- The memory after is the one before with these deposits, and nothing else. -/
structure Gains (deposits : List Deposit) (before after : Memory) : Prop where
  written : ∀ deposit ∈ deposits, after.read deposit.start deposit.bytes.length = deposit.bytes
  kept : Agree (fun address => ∀ deposit ∈ deposits, ¬ deposit.Covers address) after before

theorem byte_write_of_not_covers (memory : Memory) {deposit : Deposit} {address : Nat}
    (outside : ¬ deposit.Covers address) :
    (memory.write deposit.start deposit.bytes).byte address = memory.byte address := by
  by_cases before : address < deposit.start
  · exact byte_write_of_lt before
  · apply byte_write_of_le
    unfold Deposit.Covers at outside
    omega

/-- Deposits that are apart do not disturb each other. -/
theorem writeAll_gains {deposits : List Deposit} (apart : deposits.Pairwise Deposit.Apart)
    (memory : Memory) : Gains deposits memory (memory.writeAll deposits) := by
  induction deposits generalizing memory with
  | nil => exact ⟨fun _ member => absurd member List.not_mem_nil, Agree.refl _ _⟩
  | cons deposit rest hypothesis =>
    rcases List.pairwise_cons.mp apart with ⟨first, others⟩
    rcases hypothesis others (memory.write deposit.start deposit.bytes) with ⟨written, kept⟩
    constructor
    · intro other member
      rcases List.mem_cons.mp member with rfl | member
      · refine (read_congr fun offset small => kept _ fun later among => ?_).trans
          (read_write memory _ _)
        exact first later among _ ⟨Nat.le_add_right _ _, Nat.add_lt_add_left small _⟩
      · exact written other member
    · intro address outside
      exact (kept address fun later among => outside later (List.mem_cons_of_mem _ among)).trans
        (byte_write_of_not_covers memory (outside deposit List.mem_cons_self))

/-- Elsewhere means in any buffer that is apart from those of the deposits. -/
theorem Gains.agree {deposits : List Deposit} {buffers others : List Buffer}
    {before after : Memory} (gains : Gains deposits before after)
    (fits : List.Forall₂ Deposit.Fits deposits buffers)
    (apart : ∀ buffer ∈ buffers, ∀ other ∈ others, buffer.Apart other) :
    Agree (fun address => ∃ other ∈ others, other.Covers address) after before := by
  rintro address ⟨other, member, covered⟩
  exact gains.kept address
    (Deposit.not_covers_of_apart fits (fun buffer among => apart buffer among other member) covered)

end Memory

namespace Job

/-- What the job makes of its source, if it completes. -/
def output? (codecs : Codecs) (job : Job) (memory : Memory) : Option (List UInt8) :=
  if job.scratchCovers then job.codec codecs (job.contents memory) else none

/-- Where a Zstd compression copies its source to. -/
def literals (job : Job) : List Buffer :=
  match job.pipeline, job.auxiliary with
  | .zstdCompress, .streams literals _ => [literals]
  | _, _ => []

/-- Where a Zstd compression would split off the sequences. -/
def sequences (job : Job) : List Buffer :=
  match job.pipeline, job.auxiliary with
  | .zstdCompress, .streams _ sequences => [sequences]
  | _, _ => []

/-- Where a Zstd decompression builds its output. -/
def workspaces (job : Job) (length : UInt64) : List Buffer :=
  match job.pipeline, job.auxiliary with
  | .zstdDecompress, .workspace address => [⟨address, length⟩]
  | _, _ => []

/-- Where the output and the completion word go.  The job does not know how much room
there is. -/
def targets (job : Job) (workspace room : UInt64) : List Buffer :=
  job.workspaces workspace ++ [⟨job.destination, room⟩, .ofWord job.word]

/-- All that the job works on. -/
def buffers (job : Job) (workspace room : UInt64) : List Buffer :=
  job.source :: (job.literals ++ job.targets workspace room ++ job.sequences)

def staged (job : Job) (memory : Memory) : List Deposit :=
  job.literals.map fun literals => ⟨literals.address.toNat, job.contents memory⟩

def drafted (job : Job) (output : List UInt8) : List Deposit :=
  (job.workspaces 0).map fun workspace => ⟨workspace.address.toNat, output⟩

def delivered (job : Job) (output : List UInt8) : Deposit := ⟨job.destination.toNat, output⟩

/-- The value of the completion word. -/
def signal (job : Job) (output : List UInt8) : Deposit :=
  ⟨job.word.toNat, LittleEndian.toBytes 8 (job.value output).toNat⟩

/-- What a job leaves that completes. -/
def deposits (job : Job) (memory : Memory) (output : List UInt8) : List Deposit :=
  job.staged memory ++ (job.drafted output ++ [job.delivered output, job.signal output])

variable {codecs : Codecs} {job : Job} {memory : Memory} {output : List UInt8}
  {workspace room : UInt64}

theorem writeLiterals_eq (suits : job.auxiliary.suits job.pipeline = true) (memory : Memory) :
    job.writeLiterals memory = memory.writeAll (job.staged memory) := by
  rcases job with ⟨pipeline, source, auxiliary, destination, word, level, tuning⟩
  cases pipeline <;> cases auxiliary <;> first | rfl | cases suits

theorem writeOutput_eq (suits : job.auxiliary.suits job.pipeline = true) (output : List UInt8)
    (memory : Memory) : job.writeOutput output memory =
      memory.writeAll (job.drafted output ++ [job.delivered output]) := by
  rcases job with ⟨pipeline, source, auxiliary, destination, word, level, tuning⟩
  cases pipeline <;> cases auxiliary <;> first | rfl | cases suits

theorem fits_staged (covers : job.scratchCovers = true) (memory : Memory) :
    List.Forall₂ Deposit.Fits (job.staged memory) job.literals := by
  rcases job with ⟨pipeline, source, auxiliary, destination, word, level, tuning⟩
  cases pipeline <;> cases auxiliary <;> first | exact .nil | skip
  rename_i literals sequences
  have wide : source.length ≤ literals.length := by
    simp only [scratchCovers, Bool.and_eq_true, decide_eq_true_eq] at covers
    exact covers.1
  refine .cons ⟨rfl, ?_⟩ .nil
  change (contents _ memory).length ≤ literals.length.toNat
  rw [contents, Memory.length_read]
  exact wide

theorem fits_drafted (small : output.length ≤ workspace.toNat) :
    List.Forall₂ Deposit.Fits (job.drafted output) (job.workspaces workspace) := by
  rcases job with ⟨pipeline, source, auxiliary, destination, word, level, tuning⟩
  cases pipeline <;> cases auxiliary <;> first | exact .nil | exact .cons ⟨rfl, small⟩ .nil

theorem fits_signal (job : Job) (output : List UInt8) :
    (job.signal output).Fits (.ofWord job.word) :=
  ⟨rfl, Nat.le_of_eq (LittleEndian.length_toBytes _ _)⟩

theorem fits_deposits (covers : job.scratchCovers = true) (memory : Memory)
    (small : output.length ≤ workspace.toNat) (fits : output.length ≤ room.toNat) :
    List.Forall₂ Deposit.Fits (job.deposits memory output)
      (job.literals ++ job.targets workspace room) :=
  List.rel_append (fits_staged covers memory) (List.rel_append (fits_drafted small)
    (.cons ⟨rfl, fits⟩ (.cons (fits_signal job output) .nil)))

/-- If the source is copied at all, the copy is in the literals. -/
theorem exists_fits_copied (job : Job) (memory : Memory) :
    ∃ buffers, buffers.Sublist job.literals ∧
      List.Forall₂ Deposit.Fits (if job.scratchCovers then job.staged memory else []) buffers := by
  by_cases covers : job.scratchCovers = true
  · rw [if_pos covers]
    exact ⟨job.literals, .refl _, fits_staged covers memory⟩
  · rw [if_neg covers]
    exact ⟨[], List.nil_sublist _, .nil⟩

/-- What does not go to the destination goes to buffers that are apart from it, so nothing
gets behind the output. -/
theorem not_covers_tail (covers : job.scratchCovers = true)
    (apart : (job.literals ++ job.targets workspace room).Pairwise Buffer.Apart)
    (small : output.length ≤ workspace.toNat) {address : Nat}
    (above : job.destination.toNat + output.length ≤ address)
    (below : address < job.destination.toNat + room.toNat) :
    ∀ deposit ∈ job.deposits memory output, ¬ deposit.Covers address := by
  rcases List.pairwise_append.mp apart with ⟨_, targets, between⟩
  rcases List.pairwise_append.mp targets with ⟨_, ends, workspaces⟩
  have inside : Buffer.Covers ⟨job.destination, room⟩ address :=
    ⟨Nat.le_trans (Nat.le_add_right _ _) above, below⟩
  intro deposit member
  simp only [deposits, List.mem_append, List.mem_cons, List.not_mem_nil, or_false] at member
  rcases member with copy | draft | rfl | rfl
  · exact Deposit.not_covers_of_apart (fits_staged covers memory)
      (fun buffer among => between buffer among _ (by simp [Job.targets])) inside deposit copy
  · exact Deposit.not_covers_of_apart (fits_drafted small)
      (fun buffer among => workspaces buffer among _ (by simp)) inside deposit draft
  · exact fun covered => absurd covered.2 (Nat.not_lt.mpr above)
  · exact fun covered => (List.pairwise_cons.mp ends).1 _ (List.mem_singleton_self _) address
      inside ((fits_signal job output).covers covered)

/-- The literals do not lie in the source, so the codec reads the source as it was. -/
theorem contents_writeLiterals (suits : job.auxiliary.suits job.pipeline = true)
    (covers : job.scratchCovers = true)
    (apart : (job.buffers workspace room).Pairwise Buffer.Apart) (memory : Memory) :
    job.contents (job.writeLiterals memory) = job.contents memory := by
  rcases List.pairwise_cons.mp apart with ⟨source, others⟩
  have literals := (List.pairwise_append.mp (List.pairwise_append.mp others).1).1
  have fits := fits_staged covers memory
  have gains := Memory.writeAll_gains (Deposit.pairwise_apart fits literals) memory
  have outside : ∀ buffer ∈ job.literals, ∀ other ∈ [job.source], buffer.Apart other := by
    intro buffer member other same
    rw [List.mem_singleton.mp same]
    exact (source buffer (by simp [member])).symm
  rw [writeLiterals_eq suits]
  exact (gains.agree fits outside).read
    (fun address covered => ⟨_, List.mem_singleton_self _, covered⟩) (Nat.le_refl _)

/-- A job that completes leaves its deposits, except for the completion word. -/
theorem run_of_output? (suits : job.auxiliary.suits job.pipeline = true)
    (apart : (job.buffers workspace room).Pairwise Buffer.Apart)
    (made : job.output? codecs memory = some output) :
    job.scratchCovers = true ∧ (job.run codecs memory).unit = some (job.value output) ∧
      (job.run codecs memory).memory.store job.word (job.value output) =
        memory.writeAll (job.deposits memory output) := by
  rcases Option.ite_none_right_eq_some.mp made with ⟨covers, coded⟩
  have shape : job.deposits memory output =
      (job.staged memory ++ (job.drafted output ++ [job.delivered output])) ++
        [job.signal output] := by
    simp [deposits]
  rw [run_of_scratchCovers covers, contents_writeLiterals suits covers apart, coded, shape,
    Memory.writeAll_append, Memory.writeAll_append, ← writeLiterals_eq suits,
    ← writeOutput_eq suits]
  exact ⟨covers, rfl, rfl⟩

/-- A job that fails has at most copied its source. -/
theorem run_of_output?_eq_none (suits : job.auxiliary.suits job.pipeline = true)
    (apart : (job.buffers workspace room).Pairwise Buffer.Apart)
    (refused : job.output? codecs memory = none) :
    (job.run codecs memory).unit = none ∧ (job.run codecs memory).memory =
      memory.writeAll (if job.scratchCovers then job.staged memory else []) := by
  by_cases covers : job.scratchCovers = true
  · rw [output?, if_pos covers] at refused
    rw [run_of_scratchCovers covers, contents_writeLiterals suits covers apart, refused,
      if_pos covers, ← writeLiterals_eq suits]
    exact ⟨rfl, rfl⟩
  · rw [run, if_neg covers, if_neg covers]
    exact ⟨rfl, rfl⟩

end Job

/-- The jobs of a device bring the extra buffers of their pipelines. -/
theorem Staging.suits_of_job? {staging : Staging} {pipeline : Pipeline} {tuning : Tuning}
    {job : Job} (made : staging.job? pipeline tuning = some job) :
    job.auxiliary.suits job.pipeline = true := by
  simp only [job?, Option.bind_eq_bind, Option.bind_eq_some_iff, Option.pure_def,
    Option.some.injEq] at made
  rcases made with ⟨source, _, ⟨destination, word⟩, _, auxiliary, carried, level, _, rfl⟩
  cases pipeline <;>
    simp only [auxiliary?, Option.bind_eq_bind, Option.bind_eq_some_iff, Option.pure_def,
      Option.some.injEq] at carried
  · subst carried
    rfl
  · subst carried
    rfl
  · rcases carried with ⟨literals, _, sequences, _, rfl⟩
    rfl
  · rcases carried with ⟨address, _, rfl⟩
    rfl

namespace Device

variable {codecs : Codecs} {device : Device} {job : Job} {rest : List Job} {memory : Memory}

/-- A job that completes takes three steps. -/
theorem steps_of_some (idle : device.worker = .idle) (next : device.queue = job :: rest)
    {value : UInt64} (completes : (job.run codecs memory).unit = some value) :
    (device.steps codecs memory 3).unit =
        { device with queue := rest, completed := device.completed + 1 } ∧
      (device.steps codecs memory 3).memory =
        (job.run codecs memory).memory.store job.word value := by
  simp [steps, step, idle, next, completes, count, Effect.map, Effect.quiet]

/-- A job that fails takes two. -/
theorem steps_of_none (idle : device.worker = .idle) (next : device.queue = job :: rest)
    (fails : (job.run codecs memory).unit = none) :
    (device.steps codecs memory 2).unit =
        { device with queue := rest, stalled := device.stalled + 1 } ∧
      (device.steps codecs memory 2).memory = (job.run codecs memory).memory := by
  simp [steps, step, idle, next, fails, count, Effect.map, Effect.quiet]

/-- A device serves a job that has been started with buffers of its own, among them a
destination and a workspace with enough room for what comes out.

If something comes out, the job is counted as completed, and memory has gained the output
at the destination, the copies that Zstd makes, and the value in the completion word.  The
sequences and the rest of the destination are as before.  Otherwise the job is counted as
stalled, and all that memory can have gained is the copy of a source that the scratch
buffers of a compression cover. -/
theorem changes_exactly {workspace room : UInt64} (idle : device.worker = .idle)
    (next : device.queue = job :: rest) (suits : job.auxiliary.suits job.pipeline = true)
    (apart : (job.buffers workspace room).Pairwise Buffer.Apart)
    (roomy : ∀ output, job.output? codecs memory = some output →
      output.length ≤ workspace.toNat ∧ output.length ≤ room.toNat) :
    (∀ output, job.output? codecs memory = some output →
      (device.steps codecs memory 3).unit =
          { device with queue := rest, completed := device.completed + 1 } ∧
        Memory.Gains (job.deposits memory output) memory (device.steps codecs memory 3).memory ∧
        ((device.steps codecs memory 3).memory.load job.word).toNat =
          (if job.pipeline.isCompression then output.length else 1) ∧
        Memory.Agree (fun address => ∃ buffer ∈ job.sequences, buffer.Covers address)
          (device.steps codecs memory 3).memory memory ∧
        Memory.Agree
          (fun address => job.destination.toNat + output.length ≤ address ∧
            address < job.destination.toNat + room.toNat)
          (device.steps codecs memory 3).memory memory) ∧
    (job.output? codecs memory = none →
      (device.steps codecs memory 2).unit =
          { device with queue := rest, stalled := device.stalled + 1 } ∧
        Memory.Gains (if job.scratchCovers then job.staged memory else []) memory
          (device.steps codecs memory 2).memory ∧
        Memory.Agree
          (fun address => ∃ buffer ∈ job.targets workspace room ++ job.sequences,
            buffer.Covers address)
          (device.steps codecs memory 2).memory memory) := by
  have others := (List.pairwise_cons.mp apart).2
  rcases List.pairwise_append.mp others with ⟨front, _, sequences⟩
  rcases List.pairwise_append.mp front with ⟨literals, _, between⟩
  constructor
  · intro output made
    rcases roomy output made with ⟨small, fits⟩
    rcases Job.run_of_output? suits apart made with ⟨covers, completes, stored⟩
    rcases steps_of_some idle next completes with ⟨unit, after⟩
    rw [unit, after]
    have placed := Job.fits_deposits covers memory small fits
    have gains := Memory.writeAll_gains (Deposit.pairwise_apart placed front) memory
    rw [← stored] at gains
    refine ⟨rfl, gains, ?_, gains.agree placed sequences, ?_⟩
    · rw [Memory.load_store, Job.value]
      split
      · exact UInt64.toNat_ofNat_of_lt' (Nat.lt_of_le_of_lt fits room.toNat_lt)
      · rfl
    · rintro address ⟨above, below⟩
      exact gains.kept address (Job.not_covers_tail covers front small above below)
  · intro refused
    rcases Job.run_of_output?_eq_none suits apart refused with ⟨fails, stored⟩
    rcases steps_of_none idle next fails with ⟨unit, after⟩
    rw [unit, after, stored]
    rcases job.exists_fits_copied memory with ⟨buffers, within, placed⟩
    have gains := Memory.writeAll_gains
      (Deposit.pairwise_apart placed (literals.sublist within)) memory
    refine ⟨rfl, gains, gains.agree placed fun buffer among other member => ?_⟩
    rcases List.mem_append.mp member with target | sequence
    · exact between buffer (within.subset among) other target
    · exact sequences buffer (List.mem_append_left _ (within.subset among)) other sequence

/-- Three bytes become a frame with one stored block. -/
theorem changes_exactly_stored :
    let job : Job := ⟨.zstdCompress, ⟨0x1000, 3⟩, .streams ⟨0x2000, 4⟩ ⟨0x5000, 4⟩, 0x3000, 0x4000,
      3, .powerOn⟩
    let memory := Memory.blank.write 0x1000 [97, 98, 99]
    let device : Device := { Device.powerOn .compressor with queue := [job] }
    let frame : List UInt8 := [0x28, 0xB5, 0x2F, 0xFD, 0x20, 3, 25, 0, 0, 97, 98, 99]
    (device.steps .software memory 3).unit.completed = 1 ∧
      Memory.Gains
        [⟨0x2000, [97, 98, 99]⟩, ⟨0x3000, frame⟩, ⟨0x4000, [12, 0, 0, 0, 0, 0, 0, 0]⟩] memory
        (device.steps .software memory 3).memory := by
  intro job memory device frame
  have made : job.output? .software memory = some frame := by decide +kernel
  have left : job.deposits memory frame =
      [⟨0x2000, [97, 98, 99]⟩, ⟨0x3000, frame⟩, ⟨0x4000, [12, 0, 0, 0, 0, 0, 0, 0]⟩] := by
    decide +kernel
  have roomy : ∀ output, job.output? .software memory = some output →
      output.length ≤ (100 : UInt64).toNat ∧ output.length ≤ (100 : UInt64).toNat := by
    intro output other
    cases made.symm.trans other
    decide
  have idle : device.worker = .idle := rfl
  have apart : (job.buffers 100 100).Pairwise Buffer.Apart := Buffer.pairwise_apart (by decide)
  rcases (changes_exactly idle rfl rfl apart roomy).1 frame made with ⟨unit, gains, _⟩
  rw [left] at gains
  exact ⟨congrArg completed unit, gains⟩

end Device

end RoccCodec
