import RoccCodec.Proofs.Calls

namespace RoccCodec

/-!
# Writing within what was checked

A unit gets the address of a destination and never its length, and of a
workspace likewise.  It writes as many bytes as its codec produces.  What keeps
it within the buffers of a call is the check of the driver alone, made before
the codec has seen the source.

`Task.run_confined` follows one job: its output has the size that was checked,
and outside of the destination and the scratch buffers nothing changes, also if
the codec refuses the source.  `Facade.writes_confined` has this for the job
that the request of an accepted task starts, and for all the memory around a
call, whatever the worker does when.
-/

/-- A job that settles keeps off more memory, if its run does and its word is
elsewhere. -/
theorem Job.Settles.widen {codecs : Codecs} {own kept : Nat → Prop} {start : Memory} {job : Job}
    {outcome : Option UInt64} {good : Memory → Prop}
    (settles : job.Settles codecs own start outcome good)
    (keeps : ∀ memory, Memory.Agree own memory start →
      Memory.Agree kept (job.run codecs memory).memory memory)
    (word : ∀ address, kept address → ¬ (Buffer.ofWord job.word).Covers address) :
    job.Settles codecs (fun address => own address ∨ kept address) start outcome
      fun memory => Memory.Agree kept memory start where
  clear := fun same => settles.clear fun address owned => same address (Or.inl owned)
  run := by
    intro memory same
    have owned : Memory.Agree own memory start := fun address owned => same address (Or.inl owned)
    rcases settles.run owned with ⟨after, notices, ran, clear, _⟩
    have moved := keeps memory owned
    rw [ran] at moved
    have before := moved.trans fun address held => same address (Or.inr held)
    refine ⟨after, notices, ran, clear, ?_⟩
    cases outcome with
    | none => exact before
    | some value => exact (Memory.agree_store after word value).trans before

/-- What a job keeps off is as it was at the start, in each of its phases. -/
theorem Device.Serving.agree {codecs : Codecs} {own kept : Nat → Prop} {start : Memory} {job : Job}
    {outcome : Option UInt64} {device : Device} {memory : Memory}
    (serving : Serving codecs (fun address => own address ∨ kept address) start job outcome
      (fun memory => Memory.Agree kept memory start) device memory)
    (word : ∀ address, kept address → ¬ (Buffer.ofWord job.word).Covers address) :
    Memory.Agree kept memory start := by
  cases serving with
  | waiting ahead queue spares same => exact fun address held => same address (Or.inr held)
  | running queue worker clear ready =>
      cases outcome with
      | none => exact ready
      | some value =>
          intro address held
          exact (Memory.agree_store memory word value address held).symm.trans (ready address held)
  | served rest set done => exact done

namespace Task

variable {pipeline : Pipeline} {task : Task pipeline} {codecs : Codecs} {start memory : Memory}
  {request : Request} {output : List UInt8} {word : UInt64} {tuning : Tuning}

/-- The memory that the unit is given to write to. -/
def Lends (task : Task pipeline) (word : UInt64) (address : Nat) : Prop :=
  ∃ buffer ∈ Buffer.ofWord word :: task.destination :: task.scratch, buffer.Covers address

theorem not_covers_word {address : Nat} (foreign : ¬ task.Lends word address) :
    ¬ (Buffer.ofWord word).Covers address :=
  fun covered => foreign ⟨_, List.mem_cons_self, covered⟩

/-- The output has the size that a decompression was checked for, and there is
room for it wherever it is written. -/
structure Fits (task : Task pipeline) (start : Memory) (output : List UInt8) : Prop where
  destination : output.length ≤ task.destination.length.toNat
  declared : pipeline.isCompression = false →
    pipeline.algorithm.declaredLength (contents start task.source) = .ok output.length
  scratch : pipeline.isCompression = false →
    ∀ buffer ∈ task.scratch, output.length ≤ buffer.length.toNat

/-- A decompression reads its source as it was checked; for a compression it is
enough that the source has kept its length. -/
theorem fits_of_codec (measured : codecs.Measured) (requested : task.request start = .ok request)
    {source : List UInt8} (length : source.length = task.source.length.toNat)
    (same : pipeline.isCompression = false → source = contents start task.source)
    (coded : (task.job word tuning).codec codecs source = some output) : task.Fits start output := by
  cases compresses : pipeline.isCompression with
  | true =>
      rcases (request_of_compression compresses).mp requested with ⟨_, bound, bounded, room⟩
      rw [← length] at bounded
      have small := measured.compressed compresses bounded coded
      exact ⟨small.trans room.destination, by simp [compresses], by simp [compresses]⟩
  | false =>
      rcases (request_of_decompression compresses).mp requested with ⟨_, size, declared, room⟩
      rw [same compresses] at coded
      cases measured.decompressed compresses declared coded
      exact ⟨room.destination, fun _ => declared, fun _ => room.scratch⟩

theorem writeLiterals_of_decompression (decompresses : pipeline.isCompression = false)
    (memory : Memory) : (task.job word tuning).writeLiterals memory = memory := by
  cases task with
  | zstdCompress => cases decompresses
  | _ => rfl

/-- However the codec fares, the job of a request that was made stays within the
memory that its unit was given. -/
theorem run_confined (measured : codecs.Measured) (requested : task.request start = .ok request)
    (same : pipeline.isCompression = false →
      contents memory task.source = contents start task.source) :
    Memory.Agree (fun address => ¬ task.Lends word address)
      ((task.job word tuning).run codecs memory).memory memory ∧
    ∀ value, ((task.job word tuning).run codecs memory).unit = some value →
      ∃ output, task.Fits start output ∧ value = (task.job word tuning).value output ∧
        ((task.job word tuning).run codecs memory).memory =
          (task.job word tuning).writeOutput output
            ((task.job word tuning).writeLiterals memory) := by
  have room := scratch_of_request requested
  have scratch : ∀ buffer ∈ task.scratch, ∀ address, ¬ task.Lends word address →
      ¬ buffer.Covers address := by
    intro buffer member address foreign covered
    exact foreign ⟨buffer, by simp [member], covered⟩
  have destination : ∀ address, ¬ task.Lends word address →
      ¬ task.destination.Covers address := by
    intro address foreign covered
    exact foreign ⟨task.destination, by simp, covered⟩
  have staged := agree_writeLiterals scratch room word tuning memory
  have length : ((task.job word tuning).contents
      ((task.job word tuning).writeLiterals memory)).length = task.source.length.toNat :=
    Memory.length_read _ _ _
  have read : pipeline.isCompression = false →
      (task.job word tuning).contents ((task.job word tuning).writeLiterals memory) =
        contents start task.source := by
    intro decompresses
    rw [writeLiterals_of_decompression decompresses]
    exact same decompresses
  rw [Job.run_of_scratchCovers (scratchCovers_job room word tuning)]
  cases coded : (task.job word tuning).codec codecs ((task.job word tuning).contents
      ((task.job word tuning).writeLiterals memory)) with
  | none => exact ⟨staged, by simp⟩
  | some output =>
      have fits : task.Fits start output := fits_of_codec measured requested length read coded
      have written := agree_writeOutput scratch destination fits.scratch fits.destination word tuning
        ((task.job word tuning).writeLiterals memory)
      refine ⟨written.trans staged, ?_⟩
      rintro value ⟨⟩
      exact ⟨output, fits, rfl, rfl⟩

end Task

namespace Facade

variable {codecs : Codecs} {facade : Facade} {task : Task facade.channel.pipeline}
  {machine sent : Machine Simulated} {kept : Nat → Prop}

namespace Exclusive

variable (exclusive : facade.Exclusive codecs task machine) (measured : codecs.Measured)
  (requested : task.request machine.memory = .ok task.message)
  (foreign : ∀ address, kept address → ¬ task.Lends facade.word address) {most : Nat}
  (room : task.Holds (if facade.channel.pipeline.isCompression then task.source.length.toNat
    else most) most)
  (fits : ∀ output ∈ facade.output? task machine, output.length ≤ most)

include exclusive measured requested foreign in
/-- The job of the call keeps off the memory that the call does not lend. -/
theorem keeps (memory : Memory)
    (same : Memory.Agree (task.Owns facade.word) memory (machine.memory.store facade.word 0)) :
    Memory.Agree kept ((facade.jobOf task machine).run codecs memory).memory memory := by
  have source : Task.contents memory task.source = Task.contents machine.memory task.source := by
    refine Eq.trans (same.read ?_ (Nat.le_refl _)) exclusive.contents_store
    exact fun address covered => ⟨task.source, by simp [Task.buffers], covered⟩
  have confined : Memory.Agree (fun address => ¬ task.Lends facade.word address)
      ((facade.jobOf task machine).run codecs memory).memory memory :=
    (Task.run_confined measured requested fun _ => source).1
  exact fun address held => confined address (foreign address held)

/-- The call as seen by those who own the memory that it does not lend. -/
def watched : Call facade :=
  { exclusive.call room fits with
    own := fun address => task.Owns facade.word address ∨ kept address
    good := fun memory => Memory.Agree kept memory (machine.memory.store facade.word 0)
    settles := (exclusive.call room fits).settles.widen
      (exclusive.keeps measured requested foreign)
      fun address held => Task.not_covers_word (foreign address held) }

theorem exists_flight
    (spares : machine.unit.device.Spares codecs kept (machine.memory.store facade.word 0)) :
    ∃ sent, facade.dispatch task machine = (.ok (), sent) ∧
      (exclusive.watched measured requested foreign room fits).Flight none sent := by
  refine Call.Flight.of_dispatch exclusive.built exclusive.equipped rfl (Nat.le_refl _) rfl rfl
    requested exclusive.check_message ?_
  rintro count address (owned | held)
  · exact exclusive.spares count address owned
  · exact spares count address held

/-- From the request to the end of the call, memory that is not lent is as it was
before. -/
theorem agree_of_flight {settled : Option Completion} {last : Machine Simulated}
    (flight : (exclusive.watched measured requested foreign room fits).Flight settled last) :
    Memory.Agree kept last.memory machine.memory := by
  have word : ∀ address, kept address → ¬ (Buffer.ofWord facade.word).Covers address :=
    fun address held => Task.not_covers_word (foreign address held)
  exact (flight.serving.agree word).trans (Memory.agree_store machine.memory word 0)

end Exclusive

/-- A task that is accepted is confined to the buffers that were checked for it.
Its last command starts its job.  Whenever that job is run, with the source as it
was checked, an output that it completes with has the size that a decompression
declares and fits into every buffer that it is written to.  And all memory that
the call does not lend to the unit, and that no outstanding job touches, is the
same at each moment of the call and after it. -/
theorem writes_confined (measured : codecs.Measured)
    (built : machine.unit.device.build = facade.channel.build)
    (accepted : facade.dispatch task machine = (.ok (), sent)) :
    (∃ before closing, sent = (machine.store facade.word 0).issueAll (before ++ [closing]) ∧
      ((machine.store facade.word 0).issueAll before).unit.device.outcome closing =
        .started (facade.jobOf task machine)) ∧
    (∀ memory, (facade.channel.pipeline.isCompression = false →
        Task.contents memory task.source = Task.contents machine.memory task.source) →
      ∀ value, ((facade.jobOf task machine).run codecs memory).unit = some value →
        ∃ output, task.Fits machine.memory output ∧
          value = (facade.jobOf task machine).value output ∧
          ((facade.jobOf task machine).run codecs memory).memory =
            (facade.jobOf task machine).writeOutput output
              ((facade.jobOf task machine).writeLiterals memory)) ∧
    ∀ kept, facade.Exclusive codecs task machine →
      (∀ address, kept address → ¬ task.Lends facade.word address) →
      machine.unit.device.Spares codecs kept (machine.memory.store facade.word 0) →
      ∀ steps : List (HostStep Simulated), (∀ step ∈ steps, step.isPassive = true) →
        Memory.Agree kept (facade.work none sent steps).machine.memory machine.memory ∧
        Memory.Agree kept (facade.run task machine).2.2.memory machine.memory ∧
        Memory.Agree kept (facade.scope task steps machine).2.2.memory machine.memory := by
  rcases dispatch_eq_ok_iff.mp accepted with ⟨requested, dispatched⟩
  refine ⟨?_, fun memory same => (Task.run_confined measured requested same).2, ?_⟩
  · rcases Channel.dispatch_eq_ok_iff.mp dispatched with ⟨fits, sequence, made, rfl⟩
    rcases Channel.exists_spells made with ⟨selects, fields, closing, rfl, spells⟩
    exact ⟨selects ++ fields, closing, rfl, spells.outcome_closing fits built⟩
  · intro kept exclusive foreign spares steps passive
    rcases exclusive.exists_room measured.bounded accepted with ⟨_, most, room, fits⟩
    rcases exclusive.exists_flight measured requested foreign room fits spares with
      ⟨again, same, flight⟩
    cases accepted.symm.trans same
    have working := flight.work passive
    rw [run_of_ok accepted, scope_of_ok accepted]
    refine ⟨?_, ?_, ?_⟩ <;>
      apply exclusive.agree_of_flight measured requested foreign room fits
    · exact working
    · exact flight.wait
    · exact working.wait

/-- A block from elsewhere, with its length of three in a group too many, for a
destination of just three bytes and a worker of its own. -/
theorem writes_confined_overlong :
    let facade : Facade :=
      ⟨⟨.snappyStandalone, .snappyDecompress, Build.standaloneSnappyDecompress, rfl⟩, .powerOn,
        .spin, 0x100⟩
    let task : Task .snappyDecompress := .snappyDecompress ⟨0x1000, 6⟩ ⟨0x2000, 3⟩
    let memory := Memory.blank.write 0x1000 [0x83, 0, 8, 1, 2, 3]
    let machine : Machine Simulated :=
      ⟨.powerOn .snappyStandalone (.threaded .relaxed), memory, [], 0⟩
    (∃ output, output.length = 3 ∧ ((task.job 0x100 .powerOn).run .software memory).memory =
      (task.job 0x100 .powerOn).writeOutput output memory) ∧
    Memory.Agree (fun address => ¬ task.Lends 0x100 address)
      (facade.run task machine).2.2.memory machine.memory := by
  intro facade task memory machine
  have accepted : facade.dispatch task machine = (.ok (), _) :=
    dispatch_eq_ok_iff.mpr ⟨by decide +kernel, rfl⟩
  have exclusive : facade.Exclusive .software task machine :=
    ⟨rfl, rfl, Buffer.pairwise_apart (by decide), Device.spares_of_pending_eq_zero rfl _ _⟩
  have completes : ((task.job 0x100 .powerOn).run .software memory).unit = some 1 := by
    decide +kernel
  have declared : Snappy.declaredLength (Task.contents memory ⟨0x1000, 6⟩) = .ok 3 := by
    decide +kernel
  rcases writes_confined Codecs.software_measured rfl accepted with ⟨_, output, rest⟩
  refine ⟨?_, ?_⟩
  · rcases output memory (fun _ => rfl) 1 completes with ⟨output, fits, _, written⟩
    exact ⟨output, Except.ok.inj ((fits.declared rfl).symm.trans declared), written⟩
  · exact (rest _ exclusive (fun _ => id) (Device.spares_of_pending_eq_zero rfl _ _) []
      (by simp)).2.1

end Facade

end RoccCodec
