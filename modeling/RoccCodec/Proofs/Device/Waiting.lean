import RoccCodec.Facade
import RoccCodec.Proofs.Device.Service

namespace RoccCodec

/-!
# What a wait comes back to

A wait reads the completion word until it is set or until it has used up its
reads, and the worker makes its steps between the reads.  As the word stays
clear until the request has been served, a wait that sees it set leaves a device
at rest.  A wait that does not skip has 2^64 - 1 reads at the end; if the worker
comes to the steps it has left before these are used up (`Mode.Serves`), the
device is at rest then too, with the word set or, if the codec has failed, clear.

`Flight` is what a call knows of its request from the moment it was sent.  Waits,
polls and pauses preserve it, and so does host work of these kinds in any order.
-/

/-! ## The time a worker has -/

namespace Machine

/-- An inline device has come to rest when a command has been answered. -/
theorem pending_issue {machine : Machine Simulated} (inline : machine.unit.mode = .inline)
    (command : Command) : (machine.issue command).2.unit.device.pending = 0 := by
  have same := (machine.unit.codecs_mode_handle machine.memory command).2
  have finished : (machine.unit.handle machine.memory command).unit.device.pending = 0 := by
    simp [Simulated.handle, inline]
  change ((machine.unit.handle machine.memory command).unit.elapse _ .command).unit.device.pending
    = 0
  simp only [Simulated.elapse, same, inline]
  exact finished

/-- What a worker beside the host gets done in a pause. -/
theorem pending_elapse_le {machine : Machine Simulated} {schedule : Schedule}
    (threaded : machine.unit.mode = .threaded schedule) (pause : Pause) :
    (machine.elapse pause).unit.device.pending ≤
        machine.unit.device.pending - schedule pause machine.unit.pauses ∧
      (machine.elapse pause).unit.pauses = machine.unit.pauses + 1 := by
  change (machine.unit.elapse machine.memory pause).unit.device.pending ≤ _ ∧
    (machine.unit.elapse machine.memory pause).unit.pauses = _
  simp only [Simulated.elapse, threaded, Effect.map, and_true]
  have less := Device.pending_steps_le machine.unit.codecs machine.unit.device machine.memory
    (min (schedule pause machine.unit.pauses) machine.unit.device.pending)
  omega

end Machine

/-- The steps that a schedule allows in so many reads of a wait, from a pause on. -/
def Schedule.granted (schedule : Schedule) (first : Nat) : Nat → Nat
  | 0 => 0
  | reads + 1 => schedule .retry first + schedule.granted (first + 1) reads

/-- The device comes to so many steps before a wait has used up its reads,
whenever the wait begins. -/
def Mode.Serves (mode : Mode) (work : Nat) : Prop :=
  match mode with
  | .inline => True
  | .threaded schedule => ∀ first, work ≤ schedule.granted first Channel.endless

/-- It is enough that the worker comes to a step between any two reads. -/
theorem Mode.serves_of_pos {schedule : Schedule} (prompt : ∀ number, 0 < schedule .retry number)
    {work : Nat} (finite : work ≤ Channel.endless) : (Mode.threaded schedule).Serves work := by
  have least : ∀ reads first, reads ≤ schedule.granted first reads := by
    intro reads
    induction reads with
    | zero =>
        intro first
        exact Nat.zero_le _
    | succ reads hypothesis =>
        intro first
        have next := prompt first
        have rest := hypothesis (first + 1)
        rw [Schedule.granted]
        omega
  intro first
  exact finite.trans (least Channel.endless first)

/-! ## Waits -/

namespace Channel

variable {channel : Channel} {word : UInt64} {machine : Machine Simulated}

/-- What a wait returns is what the word is then. -/
theorem spin_fst (channel : Channel) (word : UInt64) (budget : Nat) (machine : Machine Simulated) :
    (channel.spin word budget machine).1 =
      channel.completion word (channel.spin word budget machine).2 := by
  induction budget generalizing machine with
  | zero => rfl
  | succ budget hypothesis =>
      simp only [spin]
      split
      · rfl
      · exact hypothesis (machine.elapse .retry)

theorem idles_spin (channel : Channel) (word : UInt64) (budget : Nat)
    (machine : Machine Simulated) : machine.Idles (channel.spin word budget machine).2 :=
  spin_keeps (fun _ pause idles => .elapse idles pause) channel word budget .refl

/-- Asking a unit to answer starts nothing. -/
theorem start?_check (channel : Channel) (pipeline : Pipeline) :
    channel.build.start? pipeline channel.check = none := by
  have coded : channel.table.code? .checkCompletion = some channel.check.funct := rfl
  rcases Build.decode?_of_shared channel.present coded rfl with ⟨owner, read⟩
  have foreign : channel.build.own? pipeline channel.check = none := by
    change channel.build.decode? channel.check.opcode channel.check.funct = _ at read
    simp [Build.own?, read, CommandKind.isShared]
  rw [Build.start?, foreign]
  rfl

/-- Every wait ends with some reads.  Unless one of them has seen the word set,
or the policy is to skip, they are as many as there can be. -/
theorem settle_eq_spin (built : machine.unit.device.build = channel.build) (policy : PollPolicy)
    (word : UInt64) :
    ∃ middle budget, machine.Idles middle ∧ (machine.unit.mode = .inline →
        middle.unit.device.pending = 0) ∧
      channel.settle policy word machine = channel.spin word budget middle ∧
      (policy ≠ .skip → (channel.spin word budget middle).1.done = true ∨ budget = endless) := by
  have asked : machine.Idles (channel.checkDone machine) := by
    refine .issue .refl channel.check ?_
    intro pipeline
    rw [built]
    exact channel.start?_check pipeline
  have rested : machine.unit.mode = .inline →
      (channel.checkDone machine).unit.device.pending = 0 :=
    fun inline => Machine.pending_issue inline channel.check
  cases policy with
  | skip => exact ⟨_, 0, asked, rested, rfl, fun spinning => absurd rfl spinning⟩
  | spin => exact ⟨_, endless, asked, rested, rfl, fun _ => Or.inr rfl⟩
  | bounded budget =>
      unfold settle await
      dsimp only
      cases set : (channel.spin word budget.toNat (channel.checkDone machine)).1.done with
      | true =>
          exact ⟨_, budget.toNat, asked, rested, by simp, fun _ => Or.inl set⟩
      | false =>
          have spun := channel.idles_spin word budget.toNat (channel.checkDone machine)
          have warned := (spun.notify .requestStalled).elapse .report
          refine ⟨_, endless, asked.trans warned, ?_, by simp, fun _ => Or.inr rfl⟩
          intro inline
          have still := warned.keeps (Device.stable_pending _ 0) (Nat.le_zero.mpr (rested inline))
          exact Nat.le_zero.mp still

variable {own : Nat → Prop} {start : Memory} {job : Job} {outcome : Option UInt64}
  {good : Memory → Prop}

/-- A word that is set is the word of a job that has been served. -/
theorem rest_of_done (settles : job.Settles machine.unit.codecs own start outcome good)
    (serving : Device.Serving machine.unit.codecs own start job outcome good machine.unit.device
      machine.memory)
    (set : (channel.completion job.word machine).done = true) :
    machine.unit.device.pending = 0 := by
  rcases serving.clear_or_served settles with clear | rest
  · simp [completion, Machine.load, clear] at set
  · exact rest

/-- Reads that leave the worker enough steps find the device at rest. -/
theorem rest_of_granted {schedule : Schedule} {budget : Nat}
    (settles : job.Settles machine.unit.codecs own start outcome good)
    (serving : Device.Serving machine.unit.codecs own start job outcome good machine.unit.device
      machine.memory)
    (threaded : machine.unit.mode = .threaded schedule)
    (granted : machine.unit.device.pending ≤ schedule.granted machine.unit.pauses budget) :
    (channel.spin job.word budget machine).2.unit.device.pending = 0 := by
  -- The induction is on the reads that are left; what the worker does before
  -- the next one is taken off the work and off what the schedule still grants.
  induction budget generalizing machine with
  | zero => exact Nat.le_zero.mp granted
  | succ budget hypothesis =>
      simp only [spin]
      split
      · rename_i set
        exact rest_of_done settles serving set
      · have later := (Device.stable_serving settles).elapse serving .retry
        have same := machine.unit.codecs_mode_elapse machine.memory .retry
        rcases Machine.pending_elapse_le threaded .retry with ⟨less, counted⟩
        rw [← same.1] at settles later
        rw [← same.2] at threaded
        apply hypothesis settles later threaded
        rw [counted]
        rw [Schedule.granted] at granted
        omega

/-- A wait that sees the word set, or that does not skip and leaves the worker
its time, comes back to a device at rest. -/
theorem settle_of_serving (settles : job.Settles machine.unit.codecs own start outcome good)
    (serving : Device.Serving machine.unit.codecs own start job outcome good machine.unit.device
      machine.memory)
    (built : machine.unit.device.build = channel.build) (policy : PollPolicy) {work : Nat}
    (bounded : machine.unit.device.pending ≤ work) :
    machine.Idles (channel.settle policy job.word machine).2 ∧
      (channel.settle policy job.word machine).1 =
        channel.completion job.word (channel.settle policy job.word machine).2 ∧
      ((channel.settle policy job.word machine).1.done = true ∨
        policy ≠ .skip ∧ machine.unit.mode.Serves work →
          (channel.settle policy job.word machine).2.unit.device.pending = 0) := by
  rcases settle_eq_spin built policy job.word with ⟨middle, budget, idles, rested, waited, reads⟩
  rw [waited]
  have stable := (Device.stable_serving settles).and
    (Device.stable_pending machine.unit.codecs work)
  have whole := idles.trans (channel.idles_spin job.word budget middle)
  refine ⟨whole, channel.spin_fst job.word budget middle, ?_⟩
  rcases idles.keeps stable ⟨serving, bounded⟩ with ⟨later, left⟩
  rw [← idles.codecs] at later
  have settlesLater := settles
  rw [← idles.codecs] at settlesLater
  have seen : (channel.spin job.word budget middle).1.done = true →
      (channel.spin job.word budget middle).2.unit.device.pending = 0 := by
    intro set
    have last := whole.keeps (Device.stable_serving settles) serving
    rw [← whole.codecs] at settles last
    rw [channel.spin_fst job.word budget middle] at set
    exact rest_of_done settles last set
  rintro (set | ⟨waits, serves⟩)
  · exact seen set
  · rcases reads waits with set | rfl
    · exact seen set
    · cases mode : machine.unit.mode with
      | inline =>
          have still := (channel.idles_spin job.word endless middle).keeps
            (Device.stable_pending _ 0) (Nat.le_zero.mpr (rested mode))
          exact Nat.le_zero.mp still
      | threaded schedule =>
          have threaded := idles.mode.trans mode
          rw [mode] at serves
          exact rest_of_granted settlesLater later threaded (left.trans (serves middle.unit.pauses))

end Channel

/-! ## Calls -/

namespace Facade

variable {facade : Facade}

/-- A request that was accepted, with what is known about the job it starts.
The worker had `work` steps left when the request was sent. -/
structure Call (facade : Facade) where
  codecs : Codecs
  mode : Mode
  work : Nat
  own : Nat → Prop
  start : Memory
  job : Job
  outcome : Option UInt64
  good : Memory → Prop
  word : job.word = facade.word
  settles : job.Settles codecs own start outcome good

namespace Call

/-- A completion that is set is one the device has written.  Without skipping,
and with time for the worker, so is every other. -/
def Trusts (call : Call facade) (completion : Completion) : Prop :=
  completion.done = true ∨ facade.policy ≠ .skip ∧ call.mode.Serves call.work

/-- The request is in flight, or served if a completion that can be trusted has
been waited for. -/
structure Flight (call : Call facade) (settled : Option Completion) (machine : Machine Simulated) :
    Prop where
  equipped : machine.unit.codecs = call.codecs
  mode : machine.unit.mode = call.mode
  built : machine.unit.device.build = facade.channel.build
  bounded : machine.unit.device.pending ≤ call.work
  serving : Device.Serving call.codecs call.own call.start call.job call.outcome call.good
    machine.unit.device machine.memory
  waited : ∀ completion ∈ settled, call.Trusts completion →
    machine.unit.device.pending = 0 ∧ completion = ⟨call.outcome.getD 0, facade.channel.width⟩

namespace Flight

variable {call : Call facade} {settled : Option Completion} {machine last : Machine Simulated}

theorem idles (flight : call.Flight settled machine) (idles : machine.Idles last) :
    call.Flight settled last := by
  rcases flight with ⟨equipped, mode, built, bounded, serving, waited⟩
  have kept := idles.keeps
    ((Device.stable_serving (equipped ▸ call.settles)).and (Device.stable_pending _ call.work))
    ⟨equipped ▸ serving, bounded⟩
  refine ⟨idles.codecs.trans equipped, idles.mode.trans mode, idles.build.trans built, kept.2,
    equipped ▸ kept.1, ?_⟩
  intro completion member trusts
  rcases waited completion member trusts with ⟨rest, value⟩
  have still := idles.keeps (Device.stable_pending _ 0) (Nat.le_zero.mpr rest)
  exact ⟨Nat.le_zero.mp still, value⟩

/-- After a wait, whether for the word or for a completion that is known. -/
theorem wait (flight : call.Flight settled machine) :
    call.Flight (some (facade.wait settled machine).1) (facade.wait settled machine).2 := by
  cases settled with
  | some completion => exact flight
  | none =>
      have settles := call.settles
      have serving := flight.serving
      rw [← flight.equipped] at settles serving
      rcases Channel.settle_of_serving settles serving flight.built facade.policy flight.bounded with
        ⟨idles, read, rested⟩
      rw [call.word] at idles read rested
      rw [flight.mode] at rested
      have after := flight.idles idles
      refine ⟨after.equipped, after.mode, after.built, after.bounded, after.serving, ?_⟩
      rintro completion ⟨⟩ trusts
      have rest := rested trusts
      have loaded := (after.serving.of_pending_eq_zero rest).1
      refine ⟨rest, ?_⟩
      change (facade.channel.settle facade.policy facade.word machine).1 = _
      rw [call.word] at loaded
      rw [read]
      unfold Channel.completion Machine.load
      rw [← loaded]

end Flight

end Call

end Facade

/-- The step leaves the machine to the request in flight. -/
def HostStep.isPassive {υ : Type} : HostStep υ → Bool
  | .act _ => false
  | .poll | .wait | .pipeline | .abort => true

namespace Facade.Call

variable {facade : Facade} {call : Call facade} {machine : Machine Simulated}

theorem Flight.of_dispatch {task : Task facade.channel.pipeline} {request : Request}
    (built : machine.unit.device.build = facade.channel.build)
    (equipped : machine.unit.codecs = call.codecs) (mode : machine.unit.mode = call.mode)
    (work : machine.unit.device.pending + 3 ≤ call.work)
    (start : call.start = machine.memory.store facade.word 0)
    (job : call.job = request.job facade.channel.pipeline facade.word
      (machine.unit.device.tuning.get facade.channel.pipeline))
    (requested : task.request machine.memory = .ok request)
    (fits : request.check facade.channel = .ok ())
    (spares : machine.unit.device.Spares call.codecs call.own call.start) :
    ∃ sent, facade.dispatch task machine = (.ok (), sent) ∧ call.Flight none sent := by
  have settles := call.settles
  rw [← equipped] at settles spares
  rw [start] at spares
  rw [start, job] at settles
  rcases Channel.dispatch_serving fits built spares settles with
    ⟨sent, accepted, serving, left, kept, codecs, same⟩
  refine ⟨sent, by simp [dispatch, requested, accepted], codecs.trans equipped,
    same.trans mode, kept.trans built, left.trans work, ?_, by simp⟩
  rw [← equipped, start, job]
  exact serving

/-- Host work can poll and wait as it likes, and give up. -/
theorem Flight.work {steps : List (HostStep Simulated)} {settled : Option Completion}
    (flight : call.Flight settled machine) (passive : ∀ step ∈ steps, step.isPassive = true) :
    call.Flight (facade.work settled machine steps).settled
      (facade.work settled machine steps).machine := by
  induction steps generalizing settled machine with
  | nil => exact flight
  | cons step rest hypothesis =>
      have later := fun other member => passive other (List.mem_cons_of_mem step member)
      have paused := flight.idles (.elapse .refl .hostWork)
      cases step with
      | poll => exact hypothesis paused later
      | wait => exact hypothesis paused.wait later
      | pipeline => exact hypothesis paused later
      | abort => exact paused
      | act change =>
          have impossible := passive (.act change) List.mem_cons_self
          cases impossible

variable {task : Task facade.channel.pipeline} {sent : Machine Simulated}

theorem Flight.run (flight : call.Flight none sent)
    (accepted : facade.dispatch task machine = (.ok (), sent)) :
    ∃ completion after, facade.run task machine = (.ok completion, facade, after) ∧
      call.Flight (some completion) after :=
  ⟨_, _, run_of_ok accepted, flight.wait⟩

/-- The wait at the end comes before a give-up is passed on. -/
theorem Flight.scope (flight : call.Flight none sent)
    (accepted : facade.dispatch task machine = (.ok (), sent)) {steps : List (HostStep Simulated)}
    (passive : ∀ step ∈ steps, step.isPassive = true) :
    ∃ completion after, call.Flight (some completion) after ∧
      (facade.scope task steps machine = (.error .hostWork, facade, after) ∨
        ∃ observations,
          facade.scope task steps machine = (.ok (observations, completion), facade, after)) := by
  refine ⟨_, _, (flight.work passive).wait, ?_⟩
  rw [scope_of_ok accepted]
  cases aborted : (facade.work none sent steps).aborted with
  | true => exact Or.inl (by simp [aborted])
  | false => exact Or.inr ⟨(facade.work none sent steps).observations, by simp [aborted]⟩

end Facade.Call

end RoccCodec
