import Mathlib.Algebra.Ring.Nat
import RoccCodec.Proofs.Device.Worker

namespace RoccCodec

/-!
# Jobs are served in the order of their starts

Whoever works on the jobs of a device, and whenever, they are served one after
the other in the order of their starts, each as it was when it was started.
A `Tally` that is served this way leaves nothing to chance.  `Device.InOrder`
says how far a device has come with the jobs that its commands have started:
some have been served, at most one is being worked on, and the others wait.
Every command and every step of the worker preserves it.

So a device that has come to rest does not show how it worked.  In particular a
device with a worker of its own is then in the state of an inline one
(`Machine.threaded_eq_inline`), whatever the worker did in which pause.
-/

/-- Memory, and the counts of the jobs that have been served. -/
structure Tally where
  memory : Memory
  completed : Nat
  stalled : Nat

namespace Tally

/-- Run a job, count it and store its value. -/
def serve (codecs : Codecs) (tally : Tally) (job : Job) : Tally :=
  let effect := job.run codecs tally.memory
  match effect.unit with
  | some value => ⟨effect.memory.store job.word value, tally.completed + 1, tally.stalled⟩
  | none => ⟨effect.memory, tally.completed, tally.stalled + 1⟩

def serveAll (codecs : Codecs) (tally : Tally) (jobs : List Job) : Tally :=
  jobs.foldl (serve codecs) tally

theorem serveAll_append_singleton (codecs : Codecs) (tally : Tally) (jobs : List Job) (job : Job) :
    tally.serveAll codecs (jobs ++ [job]) = (tally.serveAll codecs jobs).serve codecs job := by
  simp [serveAll]

end Tally

/-- What the worker has made of the tally it found, and the job it is at. -/
inductive Worker.Stage (codecs : Codecs) (found : Tally) : Worker → List Job → Tally → Prop
  | idle : Stage codecs found .idle [] found
  | ran (job : Job) : Stage codecs found (.ran job (job.run codecs found.memory).unit) [job]
      { found with memory := (job.run codecs found.memory).memory }
  | counted {job : Job} {value : UInt64} (run : (job.run codecs found.memory).unit = some value) :
      Stage codecs found (.counted job value) [job]
        { found with
          memory := (job.run codecs found.memory).memory
          completed := found.completed + 1 }

namespace Device

def acceptAll (device : Device) (commands : List Command) : Device :=
  commands.foldl (fun device command => (device.accept command).1) device

/-- What becomes of each of the commands. -/
def outcomes (device : Device) : List Command → List Outcome
  | [] => []
  | command :: rest => device.outcome command :: (device.accept command).1.outcomes rest

def started (device : Device) (commands : List Command) : List Job :=
  (device.outcomes commands).flatMap Outcome.jobs

/-- The number of requests among the commands that will never complete. -/
def refused (device : Device) (commands : List Command) : Nat :=
  ((device.outcomes commands).map Outcome.stalls).sum

theorem outcomes_append (device : Device) (first second : List Command) :
    device.outcomes (first ++ second) =
      device.outcomes first ++ (device.acceptAll first).outcomes second := by
  induction first generalizing device with
  | nil => rfl
  | cons command rest hypothesis => exact congrArg _ (hypothesis (device.accept command).1)

theorem started_append (device : Device) (first second : List Command) :
    device.started (first ++ second) =
      device.started first ++ (device.acceptAll first).started second := by
  unfold started
  rw [outcomes_append, List.flatMap_append]

theorem started_singleton (device : Device) (command : Command) :
    device.started [command] = (device.outcome command).jobs := by
  simp [started, outcomes]

theorem Alike.started {first second : Device} (alike : Alike first second)
    (commands : List Command) : first.started commands = second.started commands := by
  induction commands generalizing first second with
  | nil => rfl
  | cons command rest hypothesis =>
      have later := hypothesis (alike.accept command)
      unfold Device.started at later ⊢
      simp only [outcomes, List.flatMap_cons, alike.outcome command, later]

theorem refused_append_singleton (device : Device) (before : List Command) (command : Command) :
    device.refused (before ++ [command]) =
      device.refused before + ((device.acceptAll before).outcome command).stalls := by
  unfold refused
  rw [outcomes_append]
  simp [outcomes]

/-- Of the jobs that were started, some have been served and the others are
still in their order; each request that was refused has been counted. -/
inductive InOrder (codecs : Codecs) (first : Tally) (started : List Job) (refused : Nat)
    (device : Device) (memory : Memory) : Prop
  | intro (served current : List Job) (now : Tally)
    (order : started = served ++ current ++ device.queue)
    (stage : device.worker.Stage codecs (first.serveAll codecs served) current now)
    (memory_eq : memory = now.memory) (completed : device.completed = now.completed)
    (stalled : device.stalled = now.stalled + refused)

namespace InOrder

variable {codecs : Codecs} {first : Tally} {started : List Job} {refused : Nat} {device : Device}
  {memory : Memory}

theorem accept (inOrder : InOrder codecs first started refused device memory)
    (command : Command) :
    InOrder codecs first (started ++ (device.outcome command).jobs)
      (refused + (device.outcome command).stalls) (device.accept command).1 memory := by
  rcases inOrder with ⟨served, current, now, order, stage, sameMemory, completed, stalled⟩
  rcases device.accept_outcome command with ⟨queue, stalls⟩
  refine ⟨served, current, now, ?_, ?_, sameMemory, ?_, ?_⟩
  · rw [order, queue, List.append_assoc (served ++ current)]
  · rw [worker_accept]
    exact stage
  · rw [completed_accept, completed]
  · rw [stalls, stalled, Nat.add_assoc]

/-- The worker takes up the job that was started first and makes of the tally
what `Tally.serve` makes of it. -/
theorem step (inOrder : InOrder codecs first started refused device memory) :
    InOrder codecs first started refused (device.step codecs memory).unit
      (device.step codecs memory).memory := by
  rcases inOrder with ⟨served, current, now, order, stage, rfl, completed, stalled⟩
  unfold Device.step
  generalize working : device.worker = worker at stage
  generalize found : first.serveAll codecs served = tally at stage
  cases stage with
  | idle =>
      cases waiting : device.queue with
      | nil =>
          refine ⟨served, [], _, order, ?_, rfl, completed, stalled⟩
          change device.worker.Stage codecs _ [] _
          rw [working, found]
          exact .idle
      | cons job rest =>
          subst found
          refine ⟨served, [job], _, ?_, .ran job, rfl, completed, stalled⟩
          simpa [waiting, Effect.map] using order
  | ran job =>
      cases result : (job.run codecs tally.memory).unit with
      | none =>
          refine ⟨served ++ [job], [],
            ⟨(job.run codecs tally.memory).memory, tally.completed, tally.stalled + 1⟩,
            ?_, ?_, rfl, completed, ?_⟩
          · simpa [count, Effect.quiet] using order
          · simp only [Tally.serveAll_append_singleton, found, Tally.serve, result]
            exact .idle
          · change device.stalled + 1 = tally.stalled + 1 + refused
            rw [stalled, Nat.add_right_comm]
      | some value =>
          -- Counted, but not served before its word has been stored.
          subst found
          exact ⟨served, [job], _, order, .counted result, rfl, congrArg (· + 1) completed, stalled⟩
  | @counted job value result =>
      refine ⟨served ++ [job], [],
        ⟨(job.run codecs tally.memory).memory.store job.word value, tally.completed + 1,
          tally.stalled⟩, ?_, ?_, rfl, completed, stalled⟩
      · simpa [Effect.quiet] using order
      · simp only [Tally.serveAll_append_singleton, found, Tally.serve, result]
        exact .idle

theorem steps (inOrder : InOrder codecs first started refused device memory) (count : Nat) :
    InOrder codecs first started refused (device.steps codecs memory count).unit
      (device.steps codecs memory count).memory := by
  induction count generalizing device memory with
  | zero => exact inOrder
  | succ count hypothesis => exact hypothesis inOrder.step

/-- An idle worker has served the jobs that do not wait. -/
theorem of_idle (inOrder : InOrder codecs first started refused device memory)
    (idle : device.worker = .idle) :
    ∃ served, started = served ++ device.queue ∧
      memory = (first.serveAll codecs served).memory ∧
      device.completed = (first.serveAll codecs served).completed ∧
      device.stalled = (first.serveAll codecs served).stalled + refused := by
  rcases inOrder with ⟨served, current, now, order, stage, sameMemory, completed, stalled⟩
  rw [idle] at stage
  cases stage with
  | idle => exact ⟨served, by simpa using order, sameMemory, completed, stalled⟩

end InOrder

end Device

/-- What a host does while it leaves memory alone. -/
inductive HostMove where
  | send (command : Command)
  | pause (pause : Pause)
  deriving DecidableEq, Repr

namespace HostMove

def command? : HostMove → Option Command
  | .send command => some command
  | .pause _ => none

/-- The commands among the moves. -/
def commands (moves : List HostMove) : List Command := moves.filterMap command?

end HostMove

namespace Machine

variable {υ : Type} [Accelerator υ]

def move (machine : Machine υ) : HostMove → Machine υ
  | .send command => (machine.issue command).2
  | .pause pause => machine.elapse pause

def follow (machine : Machine υ) (moves : List HostMove) : Machine υ :=
  moves.foldl move machine

theorem issueAll_eq_follow (machine : Machine υ) (commands : List Command) :
    machine.issueAll commands = machine.follow (commands.map .send) := by
  simp [issueAll, follow, List.foldl_map, move]

end Machine

theorem HostMove.commands_map_send (sequence : List Command) :
    commands (sequence.map send) = sequence := by
  simp [commands, List.filterMap_map, Function.comp_def, command?]

/-- What a device that works for the machine adds to. -/
def Machine.tally (machine : Machine Simulated) : Tally :=
  ⟨machine.memory, machine.unit.device.completed, machine.unit.device.stalled⟩

/-- The commands have been sent to the first machine, and its device has come
somewhere with their jobs. -/
structure Machine.Reaches (first : Machine Simulated) (sequence : List Command)
    (last : Machine Simulated) : Prop where
  codecs : last.unit.codecs = first.unit.codecs
  mode : last.unit.mode = first.unit.mode
  alike : last.unit.device.Alike (first.unit.device.acceptAll sequence)
  inOrder : last.unit.device.InOrder first.unit.codecs first.tally
    (first.unit.device.started sequence) (first.unit.device.refused sequence) last.memory

namespace Machine.Reaches

variable {first last : Machine Simulated} {sequence : List Command}

theorem elapse (reaches : first.Reaches sequence last) (pause : Pause) :
    first.Reaches sequence (last.elapse pause) where
  codecs := (last.unit.codecs_mode_elapse last.memory pause).1.trans reaches.codecs
  mode := (last.unit.codecs_mode_elapse last.memory pause).2.trans reaches.mode
  alike := (last.unit.alike_elapse last.memory pause).trans reaches.alike
  inOrder := by
    change (last.unit.elapse last.memory pause).unit.device.InOrder _ _ _ _
      (last.unit.elapse last.memory pause).memory
    have inOrder := reaches.inOrder
    rw [← reaches.codecs] at inOrder ⊢
    unfold Simulated.elapse
    cases last.unit.mode with
    | inline => exact inOrder
    | threaded schedule => exact inOrder.steps _

theorem handle (reaches : first.Reaches sequence last) (command : Command) :
    first.Reaches (sequence ++ [command])
      (last.apply (last.unit.handle last.memory command)) where
  codecs := (last.unit.codecs_mode_handle last.memory command).1.trans reaches.codecs
  mode := (last.unit.codecs_mode_handle last.memory command).2.trans reaches.mode
  alike := by
    rw [Device.acceptAll, List.foldl_append]
    exact (last.unit.alike_handle last.memory command).trans (reaches.alike.accept command)
  inOrder := by
    change (last.unit.handle last.memory command).unit.device.InOrder _ _ _ _
      (last.unit.handle last.memory command).memory
    have taken := reaches.inOrder.accept command
    rw [reaches.alike.outcome command, ← Device.started_singleton, ← Device.started_append,
      ← Device.refused_append_singleton] at taken
    rw [← reaches.codecs] at taken ⊢
    unfold Simulated.handle
    cases last.unit.mode with
    | inline => exact taken.steps _
    | threaded schedule => exact taken

/-- Whatever a host does with a device at rest, the device serves it in order. -/
theorem follow (rest : first.unit.device.pending = 0) (moves : List HostMove) :
    first.Reaches (HostMove.commands moves) (first.follow moves) := by
  rcases Device.pending_eq_zero_iff.mp rest with ⟨empty, idle⟩
  induction moves using List.reverseRecOn with
  | nil =>
      refine ⟨rfl, rfl, .refl _, .intro [] [] first.tally empty.symm ?_ rfl rfl rfl⟩
      change first.unit.device.worker.Stage _ _ [] _
      rw [idle]
      exact .idle
  | append_singleton before move hypothesis =>
      rw [Machine.follow, List.foldl_append]
      cases move with
      | send command =>
          rw [HostMove.commands, List.filterMap_append]
          exact (hypothesis.handle command).elapse .command
      | pause pause =>
          rw [HostMove.commands, List.filterMap_append]
          change first.Reaches (HostMove.commands before ++ []) _
          rw [List.append_nil]
          exact hypothesis.elapse pause

/-- With nothing left but the jobs of the later commands, memory is as the
earlier ones make it. -/
theorem memory_of_idle (reaches : first.Reaches sequence last)
    (idle : last.unit.device.worker = .idle) {early late : List Command}
    (parts : sequence = early ++ late)
    (left : last.unit.device.queue = (first.unit.device.acceptAll early).started late) :
    last.memory =
      (first.tally.serveAll first.unit.codecs (first.unit.device.started early)).memory := by
  rcases reaches.inOrder.of_idle idle with ⟨served, order, memory, _⟩
  rw [parts, Device.started_append, left] at order
  rw [memory, List.append_cancel_right order]

/-- A device that rests has served all that its commands started. -/
theorem tally_of_rest (reaches : first.Reaches sequence last)
    (rest : last.unit.device.pending = 0) :
    last.tally =
      let served := first.tally.serveAll first.unit.codecs (first.unit.device.started sequence)
      { served with stalled := served.stalled + first.unit.device.refused sequence } := by
  rcases Device.pending_eq_zero_iff.mp rest with ⟨empty, idle⟩
  rcases reaches.inOrder.of_idle idle with ⟨served, order, memory, completed, stalled⟩
  rw [empty, List.append_nil] at order
  subst order
  rw [Machine.tally, memory, completed, stalled]

end Machine.Reaches

/-- Devices that rest differ in nothing but what commands find and the counts. -/
theorem Device.Alike.eq_of_rest {first second : Device} (alike : first.Alike second)
    (rest : first.pending = 0) (otherRest : second.pending = 0)
    (completed : first.completed = second.completed) (stalled : first.stalled = second.stalled) :
    first = second := by
  rcases pending_eq_zero_iff.mp rest with ⟨empty, idle⟩
  rcases pending_eq_zero_iff.mp otherRest with ⟨otherEmpty, otherIdle⟩
  rcases alike with ⟨build, staging, tuning, selected⟩
  rcases first with ⟨_, _, _, _, _, _, _, _⟩
  rcases second with ⟨_, _, _, _, _, _, _, _⟩
  simp_all

/-- A machine with a device that has just been powered on. -/
def Machine.powerOn (codecs : Codecs) (build : Build) (memory : Memory) (mode : Mode) :
    Machine Simulated :=
  { Machine.start (Simulated.powerOnWith codecs build mode) with memory }

/-- Once a device with a worker of its own rests, memory and the device are
those of an inline device that answered the same commands.  At any earlier
moment at which only the jobs of later commands are left, memory is what the
inline device made of the commands before those: nothing that arrives after
the start of a request, a parameter least of all, has changed its output. -/
theorem Machine.threaded_eq_inline (codecs : Codecs) (build : Build) (schedule : Schedule)
    (memory : Memory) (moves : List HostMove) :
    let threaded := (Machine.powerOn codecs build memory (.threaded schedule)).follow moves
    let inline := (Machine.powerOn codecs build memory .inline).issueAll
    threaded.unit.device.worker = .idle →
      (threaded.unit.device.queue = [] →
        threaded.memory = (inline (HostMove.commands moves)).memory ∧
          threaded.unit.device = (inline (HostMove.commands moves)).unit.device) ∧
      ∀ early late, HostMove.commands moves = early ++ late →
        threaded.unit.device.queue = (inline early).unit.device.started late →
          threaded.memory = (inline early).memory := by
  intro threaded inline idle
  have reaches : Machine.Reaches _ _ threaded := .follow rfl moves
  have inlineReaches : ∀ sequence,
      (Machine.powerOn codecs build memory .inline).Reaches sequence (inline sequence) := by
    intro sequence
    have followed : (Machine.powerOn codecs build memory .inline).Reaches _ _ :=
      .follow rfl (sequence.map .send)
    rw [HostMove.commands_map_send, ← Machine.issueAll_eq_follow] at followed
    exact followed
  have inlineRest : ∀ sequence, (inline sequence).unit.device.pending = 0 := by
    intro sequence
    rcases (Machine.powerOn codecs build memory .inline).run_issueAll sequence with ⟨_, run, _⟩
    exact run.pending_eq_zero rfl rfl
  constructor
  · intro empty
    have rest := Device.pending_eq_zero_iff.mpr ⟨empty, idle⟩
    have same := (reaches.tally_of_rest rest).trans
      ((inlineReaches (HostMove.commands moves)).tally_of_rest (inlineRest _)).symm
    have alike := reaches.alike.trans (inlineReaches (HostMove.commands moves)).alike.symm
    injection same with sameMemory completed stalled
    exact ⟨sameMemory, alike.eq_of_rest rest (inlineRest _) completed stalled⟩
  · intro early late parts left
    rw [(inlineReaches early).alike.started] at left
    rw [reaches.memory_of_idle idle parts left]
    have same := (inlineReaches early).tally_of_rest (inlineRest early)
    injection same with sameMemory
    exact sameMemory.symm

/-- A hash table size that arrives after the start of a request, before the
worker has finished it, leaves the output as it is. -/
theorem Machine.threaded_eq_inline_push :
    let first := Memory.blank.write 16 [1, 2, 3]
    let request : List Command := [.pair .custom3 1 16 3, .pair .custom3 2 64 128]
    let push : Command := .single .custom3 5 6
    let threaded := (Machine.powerOn .software .snappyStandalone first
      (.threaded fun _ _ => 1)).follow (request.map .send ++ [.send push, .pause .retry])
    let inline := (Machine.powerOn .software .snappyStandalone first .inline).issueAll
    threaded.unit.device.worker = .idle ∧ threaded.unit.device.queue = [] ∧
      threaded.unit.device.completed = 1 ∧
      threaded.unit.device = (inline (request ++ [push])).unit.device ∧
      threaded.memory = (inline request).memory := by
  intro first request push
  have refined := Machine.threaded_eq_inline .software .snappyStandalone (fun _ _ => 1) first
    (request.map .send ++ [.send push, .pause .retry])
  generalize reached : (Machine.powerOn .software .snappyStandalone first
      (.threaded fun _ _ => 1)).follow (request.map .send ++ [.send push, .pause .retry]) =
    threaded at refined ⊢
  have idle : threaded.unit.device.worker = .idle := by
    rw [← reached]
    decide +kernel
  have empty : threaded.unit.device.queue = [] := by
    rw [← reached]
    decide +kernel
  have completed : threaded.unit.device.completed = 1 := by
    rw [← reached]
    decide +kernel
  rcases refined idle with ⟨rested, later⟩
  refine ⟨idle, empty, completed, (rested empty).2, later request [push] rfl ?_⟩
  rw [empty]
  decide +kernel

end RoccCodec
