import RoccCodec.Proofs.Codec.Measured
import RoccCodec.Proofs.Device.Waiting
import RoccCodec.Proofs.Task

namespace RoccCodec

/-!
# Calls and the memory they borrow

A call borrows the buffers of its task and gives them back when it returns or
when its host work gives up.  By then nothing may be left to be done on the
device, or it would write to memory that belongs to somebody else again.

`Facade.returns_at_rest` says that this is so for every call whose policy is not
to skip, and for every call that reports a completion that is set.  A call that
skips reads the word once and returns, whatever the device is at:
`Facade.skip_returns_early` shows one whose job is still in the queue.
-/

namespace Facade

/-- A call has its memory to itself: its buffers are apart, and no job that is
outstanding touches them. -/
structure Exclusive (codecs : Codecs) (facade : Facade) (task : Task facade.channel.pipeline)
    (machine : Machine Simulated) : Prop where
  built : machine.unit.device.build = facade.channel.build
  equipped : machine.unit.codecs = codecs
  apart : (task.buffers facade.word).Pairwise Buffer.Apart
  spares : machine.unit.device.Spares codecs (task.Owns facade.word)
    (machine.memory.store facade.word 0)

variable {codecs : Codecs} {facade : Facade} {task : Task facade.channel.pipeline}
  {machine : Machine Simulated}

/-- The job that the device makes of the task. -/
abbrev jobOf (facade : Facade) (task : Task facade.channel.pipeline) (machine : Machine Simulated) :
    Job :=
  task.job facade.word (machine.unit.device.tuning.get facade.channel.pipeline)

theorem jobOf_value (output : List UInt8) : (facade.jobOf task machine).value output =
    if facade.channel.pipeline.isCompression then UInt64.ofNat output.length else 1 := rfl

/-- What the codec makes of the source of the task. -/
def output? (facade : Facade) (task : Task facade.channel.pipeline) (machine : Machine Simulated) :
    Option (List UInt8) :=
  (facade.jobOf task machine).codec machine.unit.codecs (Task.contents machine.memory task.source)

namespace Exclusive

/-- The source that the unit reads is the one that the call was given. -/
theorem contents_store (exclusive : facade.Exclusive codecs task machine) :
    Task.contents (machine.memory.store facade.word 0) task.source =
      Task.contents machine.memory task.source := by
  have apart := exclusive.apart
  simp only [Task.buffers, List.pairwise_cons, List.mem_cons, forall_eq_or_imp] at apart
  exact (Memory.agree_store machine.memory apart.1.1.symm 0).read (fun _ => id) (Nat.le_refl _)

/-- What is known of the request of a task with room for its output. -/
def call (exclusive : facade.Exclusive codecs task machine) {most : Nat}
    (room : task.Holds (if facade.channel.pipeline.isCompression then task.source.length.toNat
      else most) most)
    (fits : ∀ output ∈ facade.output? task machine, output.length ≤ most) : Call facade where
  codecs := codecs
  mode := machine.unit.mode
  work := machine.unit.device.pending + 3
  own := task.Owns facade.word
  start := machine.memory.store facade.word 0
  job := facade.jobOf task machine
  outcome := (facade.output? task machine).map (facade.jobOf task machine).value
  good := fun memory => ∀ output ∈ facade.output? task machine,
    memory.read task.destination.address.toNat output.length = output
  word := rfl
  settles := by
    have kept := exclusive.contents_store
    rcases exclusive with ⟨built, rfl, apart, spares⟩
    unfold output? at fits ⊢
    rw [← kept] at fits ⊢
    exact Task.settles apart (machine.memory.load_store facade.word 0) room fits

theorem check_message (exclusive : facade.Exclusive codecs task machine) :
    task.message.check facade.channel = .ok () :=
  Task.check_message rfl (Task.source_apart_destination exclusive.apart)

theorem flight (exclusive : facade.Exclusive codecs task machine)
    (requested : task.request machine.memory = .ok task.message) {most : Nat}
    (room : task.Holds (if facade.channel.pipeline.isCompression then task.source.length.toNat
      else most) most)
    (fits : ∀ output ∈ facade.output? task machine, output.length ≤ most) :
    ∃ sent, facade.dispatch task machine = (.ok (), sent) ∧
      (exclusive.call room fits).Flight none sent :=
  Call.Flight.of_dispatch exclusive.built exclusive.equipped rfl (Nat.le_refl _) rfl rfl
    requested exclusive.check_message exclusive.spares

/-- A task that was sent has room for its output. -/
theorem exists_room (exclusive : facade.Exclusive codecs task machine) (bounded : codecs.Bounded)
    {sent : Machine Simulated} (accepted : facade.dispatch task machine = (.ok (), sent)) :
    task.request machine.memory = .ok task.message ∧ ∃ most,
      task.Holds (if facade.channel.pipeline.isCompression then task.source.length.toNat
        else most) most ∧
      ∀ output ∈ facade.output? task machine, output.length ≤ most := by
  rcases dispatch_eq_ok_iff.mp accepted with ⟨requested, _⟩
  have equipped := exclusive.equipped
  subst codecs
  have length : (Task.contents machine.memory task.source).length = task.source.length.toNat :=
    Memory.length_read _ _ _
  cases compresses : facade.channel.pipeline.isCompression with
  | true =>
      rcases (Task.request_of_compression compresses).mp requested with ⟨_, bound, known, room⟩
      rw [← length] at known
      exact ⟨requested, bound, by simpa using room, fun output coded =>
        bounded.compressed compresses known coded⟩
  | false =>
      rcases (Task.request_of_decompression compresses).mp requested with ⟨_, size, known, room⟩
      exact ⟨requested, size, by simpa using room, fun output coded =>
        bounded.decompressed compresses known coded⟩

theorem flight_of_dispatch (exclusive : facade.Exclusive codecs task machine)
    (bounded : codecs.Bounded) {sent : Machine Simulated}
    (accepted : facade.dispatch task machine = (.ok (), sent)) :
    ∃ most, ∃ room : task.Holds (if facade.channel.pipeline.isCompression then
        task.source.length.toNat else most) most,
      ∃ fits : ∀ output ∈ facade.output? task machine, output.length ≤ most,
        (exclusive.call room fits).Flight none sent := by
  rcases exclusive.exists_room bounded accepted with ⟨requested, most, room, fits⟩
  rcases exclusive.flight requested room fits with ⟨again, same, flight⟩
  rw [accepted] at same
  cases same
  exact ⟨most, room, fits, flight⟩

/-- A call that waits for a codec that succeeds reports the value of its job and
leaves the output in the destination. -/
theorem run (exclusive : facade.Exclusive codecs task machine)
    (requested : task.request machine.memory = .ok task.message) {output : List UInt8}
    (made : facade.output? task machine = some output)
    (room : task.Holds (if facade.channel.pipeline.isCompression then task.source.length.toNat
      else output.length) output.length)
    (waits : facade.policy ≠ .skip)
    (serves : machine.unit.mode.Serves (machine.unit.device.pending + 3)) :
    ∃ after, facade.run task machine =
        (.ok ⟨(facade.jobOf task machine).value output, facade.channel.width⟩, facade, after) ∧
      after.read task.destination.address output.length = output ∧
      after.unit.device.pending = 0 := by
  have fits : ∀ content ∈ facade.output? task machine, content.length ≤ output.length := by
    rw [made]
    rintro content ⟨⟩
    exact Nat.le_refl _
  rcases exclusive.flight requested room fits with ⟨sent, accepted, flight⟩
  rcases flight.run accepted with ⟨completion, after, ran, settled⟩
  rcases settled.waited completion rfl (Or.inr ⟨waits, serves⟩) with ⟨rest, reported⟩
  refine ⟨after, ?_, (settled.serving.of_pending_eq_zero rest).2 output made, rest⟩
  rw [ran, reported]
  simp [Exclusive.call, made]

end Exclusive

/-- Nothing is queued or being worked on, so the worker touches nothing any more. -/
structure AtRest (machine : Machine Simulated) : Prop where
  queue : machine.unit.device.queue = []
  worker : machine.unit.device.worker = .idle
  steps (count : Nat) : machine.unit.device.steps machine.unit.codecs machine.memory count =
    .quiet machine.unit.device machine.memory

theorem atRest_of_pending (rest : machine.unit.device.pending = 0) : AtRest machine where
  queue := (Device.pending_eq_zero_iff.mp rest).1
  worker := (Device.pending_eq_zero_iff.mp rest).2
  steps := Device.steps_of_pending_eq_zero machine.unit.codecs rest machine.memory

/-- A call that does not skip gives its memory back with the device at rest,
whether it returns or passes a give-up on: whatever the worker does when, as
long as it comes to the steps it has left within the reads of a wait, and
whatever has become of the job.  Under any policy, a completion that is set is
only reported with the device at rest. -/
theorem returns_at_rest (bounded : codecs.Bounded) (exclusive : facade.Exclusive codecs task machine)
    {sent : Machine Simulated} (accepted : facade.dispatch task machine = (.ok (), sent))
    {steps : List (HostStep Simulated)} (passive : ∀ step ∈ steps, step.isPassive = true) :
    (facade.policy ≠ .skip → machine.unit.mode.Serves (machine.unit.device.pending + 3) →
      AtRest (facade.run task machine).2.2 ∧ AtRest (facade.scope task steps machine).2.2) ∧
    (∀ completion next after, facade.run task machine = (.ok completion, next, after) →
      completion.done = true → AtRest after) ∧
    ∀ observations completion next after,
      facade.scope task steps machine = (.ok (observations, completion), next, after) →
        completion.done = true → AtRest after := by
  rcases exclusive.flight_of_dispatch bounded accepted with ⟨most, room, fits, flight⟩
  rcases flight.run accepted with ⟨ran, afterRun, runs, returned⟩
  rcases flight.scope accepted passive with ⟨final, afterScope, left, scopes⟩
  refine ⟨?_, ?_, ?_⟩
  -- A wait that does not skip ends with the device at rest, set or not.
  · intro waits serves
    have trusts : ∀ completion, (exclusive.call room fits).Trusts completion :=
      fun _ => Or.inr ⟨waits, serves⟩
    have gone : (facade.scope task steps machine).2.2 = afterScope := by
      rcases scopes with aborted | ⟨observations, ended⟩
      · rw [aborted]
      · rw [ended]
    rw [runs, gone]
    exact ⟨atRest_of_pending (returned.waited ran rfl (trusts ran)).1,
      atRest_of_pending (left.waited final rfl (trusts final)).1⟩
  -- A word that is set is the last thing the worker does.
  · intro completion next after result set
    cases runs.symm.trans result
    exact atRest_of_pending (returned.waited ran rfl (Or.inl set)).1
  · intro observations completion next after result set
    rcases scopes with aborted | ⟨seen, ended⟩
    · cases aborted.symm.trans result
    · cases ended.symm.trans result
      exact atRest_of_pending (left.waited final rfl (Or.inl set)).1

/-- Host work polls and gives up while a threaded device has not begun: the wait
that follows, of two reads and then as many as it takes, sees the end of it. -/
theorem returns_at_rest_snappy :
    AtRest (scope ⟨⟨.snappyStandalone, .snappyCompress, Build.standaloneSnappyCompress, rfl⟩,
        .powerOn, .bounded 2, 0x100⟩ (.snappyCompress ⟨0x1000, 3⟩ ⟨0x2000, 64⟩) [.poll, .abort]
      (Machine.start (Simulated.powerOn .snappyStandalone (.threaded fun pause _ =>
        if pause = .retry then 1 else 0)))).2.2 := by
  have accepted : dispatch ⟨⟨.snappyStandalone, .snappyCompress, Build.standaloneSnappyCompress,
      rfl⟩, .powerOn, .bounded 2, 0x100⟩ (.snappyCompress ⟨0x1000, 3⟩ ⟨0x2000, 64⟩)
      (Machine.start (Simulated.powerOn .snappyStandalone (.threaded fun pause _ =>
        if pause = .retry then 1 else 0))) = (.ok (), _) := rfl
  have exclusive : Exclusive .software ⟨⟨.snappyStandalone, .snappyCompress,
      Build.standaloneSnappyCompress, rfl⟩, .powerOn, .bounded 2, 0x100⟩
      (.snappyCompress ⟨0x1000, 3⟩ ⟨0x2000, 64⟩)
      (Machine.start (Simulated.powerOn .snappyStandalone (.threaded fun pause _ =>
        if pause = .retry then 1 else 0))) :=
    ⟨rfl, rfl, Buffer.pairwise_apart (by decide), Device.spares_of_pending_eq_zero rfl _ _⟩
  have passive : ∀ step ∈ ([.poll, .abort] : List (HostStep Simulated)),
      step.isPassive = true := by simp [HostStep.isPassive]
  have rests := returns_at_rest Codecs.software_bounded exclusive accepted passive
  exact (rests.1 (by decide) (Mode.serves_of_pos (by simp) (by decide))).2

/-- A call that skips returns with its job in the queue.  Then the device
writes to the destination that was given back. -/
theorem skip_returns_early :
    let facade : Facade :=
      ⟨⟨.snappyStandalone, .snappyCompress, Build.standaloneSnappyCompress, rfl⟩, .powerOn, .skip,
        0x100⟩
    ∃ completion after, facade.run (.snappyCompress ⟨0x1000, 3⟩ ⟨0x2000, 64⟩)
        (Machine.start (Simulated.powerOn .snappyStandalone (.threaded .relaxed))) =
          (.ok completion, facade, after) ∧
      after.unit.device.queue ≠ [] ∧
      (after.elapse .hostWork).read 0x2000 1 ≠ after.read 0x2000 1 := by
  refine ⟨_, _, rfl, ?_, ?_⟩
  · decide +kernel
  · decide +kernel

end Facade

end RoccCodec
