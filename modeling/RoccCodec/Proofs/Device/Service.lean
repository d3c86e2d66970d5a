import RoccCodec.Proofs.Device.Dispatch
import RoccCodec.Proofs.Device.Worker
import RoccCodec.Proofs.Footprint

namespace RoccCodec

/-!
# How a request is served

A request that is started goes to the end of the queue.  The worker first
serves what is there already, then runs the request, counts it and, unless the
codec has failed, sets its word.  `Device.Serving` names these phases, and it
is preserved by every step of the worker, so it does not matter how many steps
the worker makes in which pause.  Until the request has been served, its word is
clear; a word that is set belongs to a request that is out of the queue and that
the worker has left behind.

Of the jobs that were outstanding before the request, this asks only that they
keep away from its memory (`Device.Spares`).
-/

namespace Device

variable {codecs : Codecs} {holds : Device → Memory → Prop}

/-- What the worker does is decided by the queue, its own state and memory. -/
theorem step_congr (codecs : Codecs) {first second : Device} (queue : first.queue = second.queue)
    (worker : first.worker = second.worker) (memory : Memory) :
    (first.step codecs memory).unit.queue = (second.step codecs memory).unit.queue ∧
      (first.step codecs memory).unit.worker = (second.step codecs memory).unit.worker ∧
      (first.step codecs memory).memory = (second.step codecs memory).memory := by
  unfold step
  rw [← queue, ← worker]
  cases first.worker with
  | idle =>
      cases waiting : first.queue with
      | nil => exact ⟨queue, worker, rfl⟩
      | cons job rest => exact ⟨rfl, rfl, rfl⟩
  | ran job value =>
      cases value <;> exact ⟨queue, rfl, rfl⟩
  | counted job value => exact ⟨rfl, rfl, rfl⟩

theorem steps_congr (codecs : Codecs) {first second : Device} (queue : first.queue = second.queue)
    (worker : first.worker = second.worker) (memory : Memory) (count : Nat) :
    (first.steps codecs memory count).memory = (second.steps codecs memory count).memory := by
  induction count generalizing first second memory with
  | zero => rfl
  | succ count hypothesis =>
      rcases step_congr codecs queue worker memory with ⟨sameQueue, sameWorker, sameMemory⟩
      have rest := hypothesis sameQueue sameWorker (first.step codecs memory).memory
      rw [sameMemory] at rest
      simp only [steps, sameMemory]
      exact rest

/-- While there is something to do, jobs behind it make no difference. -/
theorem step_append (codecs : Codecs) {device : Device} (busy : device.pending ≠ 0) (later : List Job)
    (memory : Memory) :
    { device with queue := device.queue ++ later }.step codecs memory =
      (device.step codecs memory).map fun stepped =>
        { stepped with queue := stepped.queue ++ later } := by
  unfold step
  cases working : device.worker with
  | idle =>
      cases waiting : device.queue with
      | nil =>
          exfalso
          exact busy (pending_eq_zero_iff.mpr ⟨waiting, working⟩)
      | cons job rest => rfl
  | ran job value =>
      cases value <;> rfl
  | counted job value => rfl

/-- A property of the queue, the worker and memory that the worker preserves. -/
structure Stable (codecs : Codecs) (holds : Device → Memory → Prop) : Prop where
  congr {first second : Device} {memory : Memory} (queue : first.queue = second.queue)
    (worker : first.worker = second.worker) (held : holds first memory) : holds second memory
  step {device : Device} {memory : Memory} (held : holds device memory) :
    holds (device.step codecs memory).unit (device.step codecs memory).memory

namespace Stable

theorem steps (stable : Stable codecs holds) {device : Device} {memory : Memory}
    (held : holds device memory) (count : Nat) :
    holds (device.steps codecs memory count).unit (device.steps codecs memory count).memory := by
  induction count generalizing device memory with
  | zero => exact held
  | succ count hypothesis => exact hypothesis (stable.step held)

theorem and {other : Device → Memory → Prop} (left : Stable codecs holds)
    (right : Stable codecs other) :
    Stable codecs fun device memory => holds device memory ∧ other device memory where
  congr := fun queue worker held =>
    ⟨left.congr queue worker held.1, right.congr queue worker held.2⟩
  step := fun held => ⟨left.step held.1, right.step held.2⟩

end Stable

theorem stable_pending (codecs : Codecs) (bound : Nat) :
    Stable codecs fun device _ => device.pending ≤ bound where
  congr := by
    intro first second memory queue worker held
    unfold pending at held ⊢
    rw [← queue, ← worker]
    exact held
  step := by
    intro device memory held
    have less := pending_step_le codecs device memory
    omega

/-- Left to itself, the worker changes nothing at these addresses. -/
def Spares (codecs : Codecs) (own : Nat → Prop) (device : Device) (memory : Memory) : Prop :=
  ∀ count, Memory.Agree own (device.steps codecs memory count).memory memory

/-- A device at rest changes nothing at all. -/
theorem spares_of_pending_eq_zero {device : Device} (rest : device.pending = 0)
    (own : Nat → Prop) (memory : Memory) : device.Spares codecs own memory := by
  intro count
  rw [steps_of_pending_eq_zero codecs rest]
  exact .refl own memory

namespace Spares

variable {own : Nat → Prop} {device : Device} {memory : Memory}

theorem agree_step (spares : device.Spares codecs own memory) :
    Memory.Agree own (device.step codecs memory).memory memory := spares 1

theorem step (spares : device.Spares codecs own memory) :
    (device.step codecs memory).unit.Spares codecs own (device.step codecs memory).memory := by
  intro count address owned
  have later := spares (count + 1) address owned
  have sooner := spares.agree_step address owned
  exact later.trans sooner.symm

theorem congr (spares : device.Spares codecs own memory) {second : Device}
    (queue : device.queue = second.queue) (worker : device.worker = second.worker) :
    second.Spares codecs own memory := by
  intro count
  rw [← steps_congr codecs queue worker]
  exact spares count

end Spares

/-- The memory of a request is still as it was, and the worker keeps away from it. -/
theorem stable_spares (codecs : Codecs) (own : Nat → Prop) (start : Memory) :
    Stable codecs fun device memory =>
      device.Spares codecs own memory ∧ Memory.Agree own memory start where
  congr := fun queue worker held => ⟨held.1.congr queue worker, held.2⟩
  step := fun held => ⟨held.1.step, held.1.agree_step.trans held.2⟩

end Device

/-- Set the word of a job to its value; a job that has failed has none. -/
def Job.publish (job : Job) (outcome : Option UInt64) (memory : Memory) : Memory :=
  outcome.elim memory (memory.store job.word)

/-- As long as its memory is as it was at the start, the job finds its word
clear and ends with this outcome; with that published, memory is good. -/
structure Job.Settles (codecs : Codecs) (own : Nat → Prop) (start : Memory) (job : Job)
    (outcome : Option UInt64) (good : Memory → Prop) : Prop where
  clear {memory : Memory} (same : Memory.Agree own memory start) : memory.load job.word = 0
  run {memory : Memory} (same : Memory.Agree own memory start) :
    ∃ after notices, job.run codecs memory = ⟨outcome, after, notices⟩ ∧
      after.load job.word = 0 ∧ good (job.publish outcome after)

namespace Device

/-- The phases of a job, from its start to the moment the worker leaves it. -/
inductive Serving (codecs : Codecs) (own : Nat → Prop) (start : Memory) (job : Job)
    (outcome : Option UInt64) (good : Memory → Prop) (device : Device) (memory : Memory) : Prop
  | waiting (ahead : List Job) (queue : device.queue = ahead ++ [job])
    (spares : { device with queue := ahead }.Spares codecs own memory)
    (same : Memory.Agree own memory start)
  | running (queue : device.queue = [])
    (worker : device.worker = .ran job outcome ∨
      ∃ value, outcome = some value ∧ device.worker = .counted job value)
    (clear : memory.load job.word = 0) (ready : good (job.publish outcome memory))
  | served (rest : device.pending = 0) (set : memory.load job.word = outcome.getD 0)
    (done : good memory)

namespace Serving

variable {codecs : Codecs} {own : Nat → Prop} {start : Memory} {job : Job}
  {outcome : Option UInt64} {good : Memory → Prop} {device : Device} {memory : Memory}

/-- The worker comes to a job after the jobs ahead of it. -/
theorem step_waiting (settles : job.Settles codecs own start outcome good) {ahead : List Job}
    (queue : device.queue = ahead ++ [job])
    (spares : { device with queue := ahead }.Spares codecs own memory)
    (same : Memory.Agree own memory start) :
    Serving codecs own start job outcome good (device.step codecs memory).unit
      (device.step codecs memory).memory := by
  by_cases rest : ({ device with queue := ahead } : Device).pending = 0
  · rcases pending_eq_zero_iff.mp rest with ⟨empty, idle⟩
    change ahead = [] at empty
    change device.worker = .idle at idle
    subst ahead
    rcases settles.run same with ⟨after, notices, run, clear, ready⟩
    have ran : device.step codecs memory =
        ⟨{ device with queue := [], worker := .ran job outcome }, after, notices⟩ := by
      simp [Device.step, idle, queue, run, Effect.map]
    rw [ran]
    exact .running rfl (Or.inl rfl) clear ready
  · have whole : { { device with queue := ahead } with queue := ahead ++ [job] } = device := by
      rw [← queue]
    have stepped := step_append codecs rest [job] memory
    rw [whole] at stepped
    rw [stepped]
    exact .waiting _ rfl spares.step (spares.agree_step.trans same)

theorem step_running (queue : device.queue = [])
    (worker : device.worker = .ran job outcome ∨
      ∃ value, outcome = some value ∧ device.worker = .counted job value)
    (clear : memory.load job.word = 0) (ready : good (job.publish outcome memory)) :
    Serving codecs own start job outcome good (device.step codecs memory).unit
      (device.step codecs memory).memory := by
  rcases worker with ran | ⟨value, rfl, counted⟩
  · cases outcome with
    | none =>
        have stepped : device.step codecs memory =
            .quiet { device.count false with worker := .idle } memory := by
          simp [Device.step, ran]
        rw [stepped]
        exact .served (pending_eq_zero_iff.mpr ⟨queue, rfl⟩) clear ready
    | some value =>
        have stepped : device.step codecs memory =
            .quiet { device.count true with worker := .counted job value } memory := by
          simp [Device.step, ran]
        rw [stepped]
        exact .running queue (Or.inr ⟨value, rfl, rfl⟩) clear ready
  · have stepped : device.step codecs memory =
        .quiet { device with worker := .idle } (memory.store job.word value) := by
      simp [Device.step, counted]
    rw [stepped]
    exact .served (pending_eq_zero_iff.mpr ⟨queue, rfl⟩) (memory.load_store job.word value) ready

end Serving

theorem stable_serving {codecs : Codecs} {own : Nat → Prop} {start : Memory} {job : Job}
    {outcome : Option UInt64} {good : Memory → Prop}
    (settles : job.Settles codecs own start outcome good) :
    Stable codecs (Serving codecs own start job outcome good) where
  congr := by
    intro first second memory queue worker serving
    cases serving with
    | waiting ahead placed spares same =>
        refine .waiting ahead (queue.symm.trans placed) ?_ same
        exact spares.congr rfl worker
    | running empty working clear ready =>
        refine .running (queue.symm.trans empty) ?_ clear ready
        rw [← worker]
        exact working
    | served rest set done =>
        refine .served ?_ set done
        unfold pending at rest ⊢
        rw [← queue, ← worker]
        exact rest
  step := by
    intro device memory serving
    cases serving with
    | waiting ahead queue spares same => exact Serving.step_waiting settles queue spares same
    | running queue worker clear ready => exact Serving.step_running queue worker clear ready
    | served rest set done =>
        rw [step_of_pending_eq_zero codecs rest]
        exact .served rest set done

namespace Serving

variable {codecs : Codecs} {own : Nat → Prop} {start : Memory} {job : Job}
  {outcome : Option UInt64} {good : Memory → Prop} {device : Device} {memory : Memory}

/-- The word is clear until the job has been served. -/
theorem clear_or_served (serving : Serving codecs own start job outcome good device memory)
    (settles : job.Settles codecs own start outcome good) :
    memory.load job.word = 0 ∨ device.pending = 0 := by
  cases serving with
  | waiting ahead queue spares same => exact Or.inl (settles.clear same)
  | running queue worker clear ready => exact Or.inl clear
  | served rest set done => exact Or.inr rest

/-- A device that is at rest has served the job. -/
theorem of_pending_eq_zero (serving : Serving codecs own start job outcome good device memory)
    (rest : device.pending = 0) : memory.load job.word = outcome.getD 0 ∧ good memory := by
  rcases pending_eq_zero_iff.mp rest with ⟨empty, idle⟩
  cases serving with
  | waiting ahead queue spares same =>
      rw [empty] at queue
      simp at queue
  | running queue worker clear ready =>
      rw [idle] at worker
      simp at worker
  | served rest set done => exact ⟨set, done⟩

end Serving

/-- A job that is started waits behind the others. -/
theorem serving_accept (outcome : Option UInt64) (good : Memory → Prop) {codecs : Codecs}
    {own : Nat → Prop} {start memory : Memory} {job : Job} {device : Device} {command : Command}
    (started : device.outcome command = .started job) (spares : device.Spares codecs own memory)
    (same : Memory.Agree own memory start) :
    Serving codecs own start job outcome good (device.accept command).1 memory ∧
      (device.accept command).1.pending = device.pending + 3 := by
  have queue := (device.accept_outcome command).1
  have worker := device.worker_accept command
  rw [started] at queue
  constructor
  · exact .waiting device.queue queue (spares.congr rfl worker.symm) same
  · unfold pending
    rw [queue, worker, Outcome.jobs, List.length_append, List.length_singleton]
    omega

end Device

/-! ## Machines -/

namespace Device.Stable

variable {holds : Device → Memory → Prop}

theorem elapse {simulated : Simulated} {memory : Memory} (stable : Stable simulated.codecs holds)
    (held : holds simulated.device memory) (pause : Pause) :
    holds (simulated.elapse memory pause).unit.device (simulated.elapse memory pause).memory := by
  unfold Simulated.elapse
  cases simulated.mode with
  | inline => exact held
  | threaded schedule => exact stable.steps held _

theorem handle {simulated : Simulated} {memory : Memory} {command : Command}
    (stable : Stable simulated.codecs holds)
    (taken : holds (simulated.device.accept command).1 memory) :
    holds (simulated.handle memory command).unit.device
      (simulated.handle memory command).memory := by
  unfold Simulated.handle
  cases simulated.mode with
  | inline => exact stable.steps taken _
  | threaded schedule => exact taken

/-- What holds once a command has been taken in still holds when it has been
answered, in either mode. -/
theorem issue {machine : Machine Simulated} {command : Command}
    (stable : Stable machine.unit.codecs holds)
    (taken : holds (machine.unit.device.accept command).1 machine.memory) :
    holds (machine.issue command).2.unit.device (machine.issue command).2.memory := by
  have handled := stable.handle taken
  have same := (machine.unit.codecs_mode_handle machine.memory command).1
  rw [← same] at stable
  exact stable.elapse handled .command

end Device.Stable

namespace Machine

/-- From the first machine to the last, the host has started nothing and written
nothing. -/
inductive Idles (first : Machine Simulated) : Machine Simulated → Prop
  | refl : Idles first first
  | elapse {last : Machine Simulated} (idles : Idles first last) (pause : Pause) :
    Idles first (last.elapse pause)
  | notify {last : Machine Simulated} (idles : Idles first last) (notice : Notice) :
    Idles first (last.notify notice)
  | issue {last : Machine Simulated} (idles : Idles first last) (command : Command)
    (idle : ∀ pipeline, last.unit.device.build.start? pipeline command = none) :
    Idles first (last.issue command).2

namespace Idles

variable {first middle last : Machine Simulated} {holds : Device → Memory → Prop}

theorem trans (idles : first.Idles middle) (later : middle.Idles last) : first.Idles last := by
  induction later with
  | refl => exact idles
  | elapse later pause hypothesis => exact hypothesis.elapse pause
  | notify later notice hypothesis => exact hypothesis.notify notice
  | issue later command idle hypothesis => exact hypothesis.issue command idle

/-- It is one of the runs of the device. -/
theorem exists_run (idles : first.Idles last) :
    ∃ trace, Simulated.Run first.unit trace last.unit := by
  induction idles with
  | refl => exact ⟨[], .start⟩
  | @elapse last idles pause hypothesis =>
      rcases hypothesis with ⟨trace, run⟩
      exact ⟨trace, run.pause last.memory pause⟩
  | notify idles notice hypothesis => exact hypothesis
  | @issue last idles command idle hypothesis =>
      rcases hypothesis with ⟨trace, run⟩
      exact ⟨_, (run.command last.memory command).pause _ .command⟩

theorem build (idles : first.Idles last) : last.unit.device.build = first.unit.device.build := by
  rcases idles.exists_run with ⟨trace, run⟩
  exact run.build

theorem codecs (idles : first.Idles last) : last.unit.codecs = first.unit.codecs := by
  rcases idles.exists_run with ⟨trace, run⟩
  exact run.codecs_mode.1

theorem mode (idles : first.Idles last) : last.unit.mode = first.unit.mode := by
  rcases idles.exists_run with ⟨trace, run⟩
  exact run.codecs_mode.2

/-- All that happens is what the worker does. -/
theorem keeps (idles : first.Idles last) (stable : Device.Stable first.unit.codecs holds)
    (held : holds first.unit.device first.memory) : holds last.unit.device last.memory := by
  induction idles with
  | refl => exact held
  | @elapse last idles pause hypothesis =>
      rw [← idles.codecs] at stable
      exact stable.elapse hypothesis pause
  | notify idles notice hypothesis => exact hypothesis
  | @issue last idles command idle hypothesis =>
      rw [← idles.codecs] at stable
      have queue := (last.unit.device.accept_outcome command).1
      rw [Device.outcome_of_start? idle] at queue
      exact stable.issue (stable.congr (by simpa [Outcome.jobs] using queue.symm)
        (Device.worker_accept last.unit.device command).symm hypothesis)

/-- Commands that start nothing. -/
theorem issueAll {commands : List Command} (machine : Machine Simulated)
    (idle : ∀ command ∈ commands, ∀ pipeline,
      machine.unit.device.build.start? pipeline command = none) :
    machine.Idles (machine.issueAll commands) := by
  induction commands generalizing machine with
  | nil => exact .refl
  | cons command rest hypothesis =>
      have first : machine.Idles (machine.issue command).2 :=
        .issue .refl command (idle command List.mem_cons_self)
      refine first.trans (hypothesis _ ?_)
      intro later member pipeline
      rw [first.build]
      exact idle later (List.mem_cons_of_mem _ member) pipeline

end Idles

end Machine

/-- A request that is accepted waits behind the jobs that are outstanding. -/
theorem Channel.dispatch_serving {channel : Channel} {own : Nat → Prop} {outcome : Option UInt64}
    {good : Memory → Prop} {machine : Machine Simulated} {request : Request} {word : UInt64}
    (fits : request.check channel = .ok ()) (built : machine.unit.device.build = channel.build)
    (spares : machine.unit.device.Spares machine.unit.codecs own (machine.memory.store word 0))
    (settles : (request.job channel.pipeline word
      (machine.unit.device.tuning.get channel.pipeline)).Settles machine.unit.codecs own
        (machine.memory.store word 0) outcome good) :
    ∃ after, channel.dispatch request word machine = (.ok (), after) ∧
      Device.Serving machine.unit.codecs own (machine.memory.store word 0)
        (request.job channel.pipeline word (machine.unit.device.tuning.get channel.pipeline))
        outcome good after.unit.device after.memory ∧
      after.unit.device.pending ≤ machine.unit.device.pending + 3 ∧
      after.unit.device.build = machine.unit.device.build ∧
      after.unit.codecs = machine.unit.codecs ∧ after.unit.mode = machine.unit.mode := by
  rcases exists_commands fits word with ⟨sequence, sent⟩
  rcases exists_spells sent with ⟨selects, fields, closing, rfl, spells⟩
  have accepted : channel.dispatch request word machine =
      (.ok (), (machine.store word 0).issueAll (selects ++ fields ++ [closing])) :=
    dispatch_eq_ok_iff.mpr ⟨fits, _, sent, rfl⟩
  -- Up to the last command nothing is started.
  have opening : (machine.store word 0).Idles
      ((machine.store word 0).issueAll (selects ++ fields)) := by
    refine Machine.Idles.issueAll _ ?_
    intro command member pipeline
    change machine.unit.device.build.start? pipeline command = none
    rw [built]
    exact spells.start?_eq_none fits member pipeline
  have opened := opening.keeps
    ((Device.stable_spares machine.unit.codecs own (machine.memory.store word 0)).and
      (Device.stable_pending machine.unit.codecs machine.unit.device.pending))
    ⟨⟨spares, .refl own _⟩, Nat.le_refl _⟩
  have started := spells.outcome_closing fits built
  rcases opening.exists_run with ⟨trace, run⟩
  change Simulated.Run machine.unit trace _ at run
  have whole : (machine.store word 0).issueAll (selects ++ fields ++ [closing]) =
      (((machine.store word 0).issueAll (selects ++ fields)).issue closing).2 :=
    Machine.issueAll_append _ _ [closing]
  generalize (machine.store word 0).issueAll (selects ++ fields) = middle at *
  rcases opened with ⟨⟨spared, same⟩, left⟩
  -- The last command puts the job behind the others.
  rcases Device.serving_accept outcome good started spared same with ⟨waiting, grown⟩
  have bounded := grown.trans_le (Nat.add_le_add_right left 3)
  have stable := (Device.stable_serving settles).and
    (Device.stable_pending machine.unit.codecs (machine.unit.device.pending + 3))
  have answered := @Device.Stable.issue _ middle closing (by
    rw [run.codecs_mode.1]
    exact stable) (And.intro waiting bounded)
  have complete := (run.command middle.memory closing).pause
    (middle.unit.handle middle.memory closing).memory .command
  rw [accepted, whole]
  exact ⟨_, rfl, answered.1, answered.2, complete.build, complete.codecs_mode.1,
    complete.codecs_mode.2⟩

end RoccCodec
