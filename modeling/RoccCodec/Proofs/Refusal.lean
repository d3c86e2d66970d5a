import RoccCodec.Facade
import RoccCodec.Proofs.Submission
import RoccCodec.Proofs.Task

namespace RoccCodec

/-!
# Which tasks are refused

A facade looks at the buffers of a task before it sends anything.  It first asks
how large they have to be: a compression needs the bound of its source in the
destination and its source in each scratch buffer, a decompression needs the size
that its source declares in both.  `Task.Refused` has one rule for each thing
that can be wrong then, in the order in which the facade looks for them.

The rules are complete for buffers that are apart: `Facade.refuses_exactly` says
that a call is refused by them or sends its request, whole and with a job that
no unit turns down for its scratch buffers.
-/

namespace Task

variable {pipeline : Pipeline}

/-- The sizes that the destination and the scratch buffers of a task must have. -/
def needs (task : Task pipeline) (memory : Memory) : Except Failure (Nat × Nat) :=
  if pipeline.isCompression then do
    let bound ← Failure.ofOverflow (pipeline.algorithm.bound task.source.length.toNat)
    return (bound, task.source.length.toNat)
  else do
    let size ← Failure.ofFault (pipeline.algorithm.declaredLength (contents memory task.source))
    return (size, size)

/-- The size of the smallest scratch buffer, for tasks that have any. -/
def smallestScratch? (task : Task pipeline) : Option Nat :=
  (task.scratch.map fun buffer => buffer.length.toNat).min?

/-- What is wrong with the buffers of a task.  Each rule leaves to the rules
before it the tasks that they refuse. -/
inductive Refused (task : Task pipeline) (memory : Memory) : Failure → Prop
  | unknown {failure : Failure} (missing : task.needs memory = .error failure) :
    Refused task memory failure
  | destination {output content : Nat} (needed : task.needs memory = .ok (output, content))
    (short : task.destination.length.toNat < output) :
    Refused task memory (.refused (.destinationTooSmall output task.destination.length.toNat))
  | scratch {output content available : Nat} (needed : task.needs memory = .ok (output, content))
    (roomy : output ≤ task.destination.length.toNat)
    (smallest : task.smallestScratch? = some available) (short : available < content) :
    Refused task memory (.refused (.scratchTooSmall content available))

/-- The four pipelines check their tasks alike. -/
theorem request_eq (task : Task pipeline) (memory : Memory) :
    task.request memory = (do
      let (output, content) ← task.needs memory
      checkDestination output task.destination
      if let some available := task.smallestScratch? then checkScratch content available
      return task.message) := by
  cases task with
  | snappyCompress source target =>
      change _ = ((Failure.ofOverflow (Bound.snappy source.length.toNat) >>= _) >>= _)
      rw [bind_assoc]
      rfl
  | snappyDecompress source target =>
      change _ = ((Failure.ofFault (Snappy.declaredLength (contents memory source)) >>= _) >>= _)
      rw [bind_assoc]
      rfl
  | zstdCompress source literals sequences target level =>
      change _ = ((Failure.ofOverflow (Bound.zstd source.length.toNat) >>= _) >>= _)
      rw [bind_assoc]
      rfl
  | zstdDecompress source workspace target =>
      change _ = ((Failure.ofFault (Zstd.contentSize (contents memory source)) >>= _) >>= _)
      rw [bind_assoc]
      rfl

theorem checkDestination_eq_error_iff {needed : Nat} {destination : Buffer} {failure : Failure} :
    checkDestination needed destination = .error failure ↔
      destination.length.toNat < needed ∧
        failure = .refused (.destinationTooSmall needed destination.length.toNat) := by
  unfold checkDestination
  split
  · rename_i fits
    simp [Nat.not_lt.mpr fits]
  · rename_i short
    simp [Nat.not_le.mp short, eq_comm]

theorem checkScratch_eq_error_iff {needed available : Nat} {failure : Failure} :
    checkScratch needed available = .error failure ↔
      available < needed ∧ failure = .refused (.scratchTooSmall needed available) := by
  unfold checkScratch
  split
  · rename_i fits
    simp [Nat.not_lt.mpr fits]
  · rename_i short
    simp [Nat.not_le.mp short, eq_comm]

/-- The rules say exactly what a request fails with. -/
theorem request_eq_error_iff {task : Task pipeline} {memory : Memory} {failure : Failure} :
    task.request memory = .error failure ↔ task.Refused memory failure := by
  rw [request_eq, bind_eq_error_iff]
  constructor
  · rintro (missing | ⟨⟨output, content⟩, needed, refused⟩)
    · exact .unknown missing
    · rcases bind_eq_error_iff.mp refused with short | ⟨granted, roomy, refused⟩
      · rcases checkDestination_eq_error_iff.mp short with ⟨less, rfl⟩
        exact .destination needed less
      · cases smallest : task.smallestScratch? with
        | none =>
            rw [smallest] at refused
            cases refused
        | some available =>
            rw [smallest] at refused
            rcases bind_eq_error_iff.mp refused with short | ⟨granted, covers, refused⟩
            · rcases checkScratch_eq_error_iff.mp short with ⟨less, rfl⟩
              exact .scratch needed (checkDestination_eq_ok_iff.mp roomy) smallest less
            · cases refused
  · intro refused
    cases refused with
    | unknown missing => exact Or.inl missing
    | destination needed short =>
        exact Or.inr ⟨_, needed, bind_eq_error_iff.mpr
          (Or.inl (checkDestination_eq_error_iff.mpr ⟨short, rfl⟩))⟩
    | scratch needed roomy smallest short =>
        refine Or.inr ⟨_, needed, bind_eq_error_iff.mpr
          (Or.inr ⟨(), checkDestination_eq_ok_iff.mpr roomy, ?_⟩)⟩
        rw [smallest]
        exact bind_eq_error_iff.mpr (Or.inl (checkScratch_eq_error_iff.mpr ⟨short, rfl⟩))

theorem request_of_not_refused {task : Task pipeline} {memory : Memory}
    (sound : ∀ failure, ¬ task.Refused memory failure) : task.request memory = .ok task.message := by
  cases requested : task.request memory with
  | error failure => exact absurd (request_eq_error_iff.mp requested) (sound failure)
  | ok request => rw [eq_message_of_request requested]

theorem Refused.ne_hostWork {task : Task pipeline} {memory : Memory} {failure : Failure}
    (refused : task.Refused memory failure) : failure ≠ .hostWork := by
  cases refused with
  | unknown missing =>
      rintro rfl
      unfold needs at missing
      split at missing
      · cases bounded : pipeline.algorithm.bound task.source.length.toNat <;>
          simp [bounded, bind_eq_error_iff, pure, Except.pure] at missing
      · cases declared : pipeline.algorithm.declaredLength (contents memory task.source) <;>
          simp [declared, bind_eq_error_iff, pure, Except.pure] at missing
  | destination needed short => simp
  | scratch needed roomy smallest short => simp

/-- The bound of a source that fits into memory is known. -/
theorem needs_of_compression {task : Task pipeline} (compresses : pipeline.isCompression = true)
    (addressable : task.source.length.toNat < 0x8000000000000000) (memory : Memory) :
    ∃ bound, pipeline.algorithm.bound task.source.length.toNat = .ok bound ∧
      task.needs memory = .ok (bound, task.source.length.toNat) := by
  have known : ∃ bound, pipeline.algorithm.bound task.source.length.toNat = .ok bound := by
    cases pipeline.algorithm with
    | snappy => exact ⟨_, Bound.snappy_eq addressable⟩
    | zstd => exact ⟨_, Bound.zstd_eq addressable⟩
  rcases known with ⟨bound, bounded⟩
  refine ⟨bound, bounded, ?_⟩
  simp [needs, compresses, bounded, bind, Except.bind, pure, Except.pure]

end Task

theorem Job.shortScratch_not_mem {job : Job} (covers : job.scratchCovers = true) (codecs : Codecs)
    (memory : Memory) : .shortScratch ∉ (job.run codecs memory).notices := by
  rw [run_of_scratchCovers covers]
  split <;> simp [Effect.quiet]

namespace Facade

variable {υ : Type} [Accelerator υ] {facade : Facade} {task : Task facade.channel.pipeline}
  {machine : Machine υ} {failure : Failure}

/-- The request of a task goes out whole, and both calls go on from there. -/
structure Sends (facade : Facade) (task : Task facade.channel.pipeline) (machine : Machine υ)
    (before : List Command) (closing : Command) (sent : Machine υ) : Prop where
  conveys : facade.channel.Conveys task.message facade.word before closing
  dispatched : facade.dispatch task machine = (.ok (), sent)
  issued : sent = (machine.store facade.word 0).issueAll (before ++ [closing])
  run : facade.run task machine =
    (.ok (facade.settle sent).1, facade, (facade.settle sent).2)
  scope : ∀ steps, facade.scope task steps machine =
    let flight := facade.work none sent steps
    let (completion, settled) := facade.wait flight.settled flight.machine
    (if flight.aborted then .error .hostWork else .ok (flight.observations, completion), facade,
      settled)

/-- On every device of the build, whatever it holds, the last command starts the
job of the task, and the job has scratch buffers enough. -/
structure Admits (facade : Facade) (task : Task facade.channel.pipeline)
    (before : List Command) (closing : Command) : Prop where
  starts : ∀ device : Machine Simulated, device.unit.device.build = facade.channel.build →
    ((device.store facade.word 0).issueAll before).unit.device.outcome closing =
      .started (task.job facade.word (device.unit.device.tuning.get facade.channel.pipeline))
  covers : ∀ tuning codecs memory,
    .shortScratch ∉ ((task.job facade.word tuning).run codecs memory).notices

theorem exists_sends (apart : task.source.Apart task.destination)
    (requested : task.request machine.memory = .ok task.message) :
    ∃ before closing sent, facade.Sends task machine before closing sent ∧
      facade.Admits task before closing := by
  have fits : task.message.check facade.channel = .ok () := Task.check_message rfl apart
  rcases Channel.exists_conveys (Request.suits_of_check fits) facade.word with
    ⟨before, closing, made, conveys⟩
  have dispatched : facade.dispatch task machine =
      (.ok (), (machine.store facade.word 0).issueAll (before ++ [closing])) := by
    refine dispatch_eq_ok_iff.mpr ⟨requested, ?_⟩
    exact Channel.dispatch_eq_ok_iff.mpr ⟨fits, _, made, rfl⟩
  refine ⟨before, closing, _,
    ⟨conveys, dispatched, rfl, run_of_ok dispatched, scope_of_ok dispatched⟩, ?_, ?_⟩
  · intro device built
    exact Channel.outcome_of_commands made fits built
  · intro tuning codecs memory
    exact Job.shortScratch_not_mem
      (Task.scratchCovers_job (Task.scratch_of_request requested) facade.word tuning) codecs memory

theorem dispatch_of_refused (refused : task.Refused machine.memory failure) :
    facade.dispatch task machine = (.error failure, machine) := by
  rw [dispatch, Task.request_eq_error_iff.mpr refused]

theorem dispatch_eq_error_iff (apart : task.source.Apart task.destination) :
    (facade.dispatch task machine).1 = .error failure ↔ task.Refused machine.memory failure := by
  constructor
  · intro failed
    cases requested : task.request machine.memory with
    | error found =>
        have refused := Task.request_eq_error_iff.mp requested
        rw [dispatch_of_refused refused] at failed
        cases failed
        exact refused
    -- A request that is made is one that the channel sends.
    | ok request =>
        rw [Task.eq_message_of_request requested] at requested
        rcases exists_sends apart requested with ⟨before, closing, sent, sends, _⟩
        rw [sends.dispatched] at failed
        cases failed
  · intro refused
    rw [dispatch_of_refused refused]

/-- A call is refused by the rules and by nothing else, and a refusal leaves the
facade and the machine as they were and does no host work.  A call that is not refused sends its
request, and the unit finds the scratch buffers large enough.  No compression is
refused for want of a bound, unless its source is larger than a memory can be. -/
theorem refuses_exactly (facade : Facade) (task : Task facade.channel.pipeline)
    (machine : Machine υ) (apart : task.source.Apart task.destination) :
    (∀ failure, (facade.run task machine).1 = .error failure ↔
      task.Refused machine.memory failure) ∧
    (∀ steps failure,
      (facade.scope task steps machine).1 = .error failure ∧ failure ≠ .hostWork ↔
        task.Refused machine.memory failure) ∧
    (∀ failure, task.Refused machine.memory failure →
      facade.dispatch task machine = (.error failure, machine) ∧
      facade.run task machine = (.error failure, facade, machine) ∧
      ∀ steps, facade.scope task steps machine = (.error failure, facade, machine)) ∧
    ((∀ failure, ¬ task.Refused machine.memory failure) →
      ∃ before closing sent, facade.Sends task machine before closing sent ∧
        facade.Admits task before closing) ∧
    (facade.channel.pipeline.isCompression = true →
      task.source.length.toNat < 0x8000000000000000 →
      ∃ bound, facade.channel.pipeline.algorithm.bound task.source.length.toNat = .ok bound ∧
        task.needs machine.memory = .ok (bound, task.source.length.toNat)) := by
  refine ⟨?_, ?_, ?_, ?_, fun compresses addressable =>
    Task.needs_of_compression compresses addressable machine.memory⟩
  · intro failure
    exact run_eq_error_iff.trans (dispatch_eq_error_iff apart)
  · intro steps failure
    constructor
    · rintro ⟨failed, shown⟩
      exact (dispatch_eq_error_iff apart).mp ((scope_eq_error_iff shown steps).mp failed)
    · intro refused
      have shown := refused.ne_hostWork
      exact ⟨(scope_eq_error_iff shown steps).mpr ((dispatch_eq_error_iff apart).mpr refused), shown⟩
  · intro failure refused
    have failed : facade.dispatch task machine = (.error failure, machine) :=
      dispatch_of_refused refused
    exact ⟨failed, run_of_error failed, scope_of_error failed⟩
  · intro sound
    exact exists_sends apart (Task.request_of_not_refused sound)

/-- Three bytes with room for only two of them in one of the scratch buffers. -/
theorem refuses_exactly_short_scratch :
    let facade : Facade :=
      ⟨⟨.compressor, .zstdCompress, Build.compressorZstdCompress, rfl⟩, .powerOn, .spin, 0x100⟩
    let machine : Machine Simulated := .start (.powerOn .compressor .inline)
    (⟨0x1000, 3⟩ : Buffer).Apart ⟨0x4000, 256⟩ ∧
    ∀ steps, facade.scope
      (.zstdCompress ⟨0x1000, 3⟩ ⟨0x2000, 8⟩ ⟨0x3000, 2⟩ ⟨0x4000, 256⟩ 1) steps machine =
        (.error (.refused (.scratchTooSmall 3 2)), facade, machine) := by
  intro facade machine
  have apart : (⟨0x1000, 3⟩ : Buffer).Apart ⟨0x4000, 256⟩ := Buffer.apart_of_le (by decide)
  rcases refuses_exactly facade
    (.zstdCompress ⟨0x1000, 3⟩ ⟨0x2000, 8⟩ ⟨0x3000, 2⟩ ⟨0x4000, 256⟩ 1) machine apart with
    ⟨_, _, refuses, _⟩
  have needed : (Task.zstdCompress ⟨0x1000, 3⟩ ⟨0x2000, 8⟩ ⟨0x3000, 2⟩ ⟨0x4000, 256⟩ 1).needs
      machine.memory = .ok (66, 3) := rfl
  exact ⟨apart, (refuses _ (.scratch needed (by decide) rfl (by decide))).2.2⟩

end Facade

end RoccCodec
