import RoccCodec.Proofs.Device.Waiting
import RoccCodec.Proofs.Submission
import RoccCodec.Proofs.Task

namespace RoccCodec

/-!
# Host work and the wait behind it

A call that lets the host work has its wait in one of three places: in the host
work, at the end of it, or on the way out if the host work gives up.  Only the
first wait asks the unit; the others hand its completion on.

An inline device does nothing between two commands, so nothing is different when
the wait comes later.  `Facade.Awaits` says what the wait of a request will end
with, from the moment the request was sent until the call returns; host work
keeps it (`Facade.Awaits.work`).  So a call with host work ends like one without
it, as `Facade.scope_matches_run` says: with the same completion, in every place
where one is seen, and with the same commands, the same device and the same
memory; and both give back the facade with the policy and the record of pushes
that it had.
-/

/-- Host work ends with this step. -/
def HostStep.isAbort {υ : Type} : HostStep υ → Bool
  | .abort => true
  | .poll | .wait | .pipeline | .act _ => false

/-- What a step may see of a request that ends with this completion. -/
inductive HostStep.Sees {υ : Type} (pipeline : Pipeline) (completion : Completion) :
    HostStep υ → Observation → Prop
  | poll (done : Bool) : Sees pipeline completion .poll (.polled done)
  | wait : Sees pipeline completion .wait (.waited completion)
  | pipeline : Sees pipeline completion .pipeline (.pipeline pipeline)

/-! ## Waits of an inline device -/

namespace Channel

/-- A wait sends its question and nothing else, however often it reads. -/
theorem commands_settle {υ : Type} [Accelerator υ] (channel : Channel) (policy : PollPolicy)
    (word : UInt64) (machine : Machine (Traced υ)) :
    (channel.settle policy word machine).2.unit.commands =
      machine.unit.commands ++ [channel.check] :=
  @settle_keeps _ _ (fun after => after.unit.commands = machine.unit.commands ++ [channel.check])
    (fun _ _ => id) (fun _ _ => id) channel policy word machine rfl

end Channel

namespace Machine

/-- The device does all its work within the commands. -/
def Inline (machine : Machine (Traced Simulated)) : Prop := machine.unit.inner.mode = .inline

namespace Inline

variable {machine : Machine (Traced Simulated)}

theorem elapse (inline : machine.Inline) (pause : Pause) : machine.elapse pause = machine := by
  rcases machine with ⟨⟨⟨device, codecs, mode, pauses⟩, commands⟩, memory, notices, free⟩
  cases inline
  simp only [Machine.elapse, apply, Accelerator.elapse, Simulated.elapse, Effect.map, Effect.quiet,
    List.append_nil]

theorem issue (inline : machine.Inline) (command : Command) : (machine.issue command).2.Inline := by
  have kept : (machine.unit.inner.handle machine.memory command).unit.mode = .inline :=
    (machine.unit.inner.codecs_mode_handle machine.memory command).2.trans inline
  exact ((machine.unit.inner.handle machine.memory command).unit.codecs_mode_elapse _ .command).2.trans
    kept

theorem issueAll (inline : machine.Inline) (commands : List Command) :
    (machine.issueAll commands).Inline := by
  induction commands generalizing machine with
  | nil => exact inline
  | cons command rest hypothesis => exact hypothesis (inline.issue command)

theorem settle (inline : machine.Inline) (channel : Channel) (policy : PollPolicy) (word : UInt64) :
    (channel.settle policy word machine).2.Inline := by
  refine Channel.settle_keeps ?_ (fun _ _ => id) channel policy word (inline.issue channel.check)
  intro machine pause inline
  rw [inline.elapse]
  exact inline

end Inline

end Machine

/-! ## Host work -/

namespace Facade

variable {facade : Facade} {task : Task facade.channel.pipeline}
  {final : Completion × Machine (Traced Simulated)} {settled : Option Completion}
  {machine sent : Machine (Traced Simulated)} {steps : List (HostStep (Traced Simulated))}

/-- The wait of the request has ended like this, or it will. -/
structure Awaits (facade : Facade) (final : Completion × Machine (Traced Simulated))
    (settled : Option Completion) (machine : Machine (Traced Simulated)) : Prop where
  inline : machine.Inline
  wait : facade.wait settled machine = final

namespace Awaits

theorem waited (awaits : facade.Awaits final settled machine) :
    facade.Awaits final (some final.1) final.2 := by
  rcases awaits with ⟨inline, rfl⟩
  refine ⟨?_, rfl⟩
  cases settled with
  | none => exact inline.settle facade.channel facade.policy facade.word
  | some completion => exact inline

/-- Host work sees the end of the request wherever it looks, and it leaves the
wait as it was, done or not. -/
theorem work (awaits : facade.Awaits final settled machine)
    (passive : ∀ step ∈ steps, step.isPassive = true) :
    facade.Awaits final (facade.work settled machine steps).settled
        (facade.work settled machine steps).machine ∧
      (facade.work settled machine steps).aborted = steps.any HostStep.isAbort ∧
      List.Forall₂ (HostStep.Sees facade.channel.pipeline final.1)
        (steps.takeWhile fun step => !step.isAbort)
        (facade.work settled machine steps).observations := by
  induction steps generalizing settled machine with
  | nil => exact ⟨awaits, rfl, .nil⟩
  | cons step rest hypothesis =>
      have later := fun other member => passive other (List.mem_cons_of_mem step member)
      have paused := awaits.inline.elapse .hostWork
      cases step with
      | poll =>
          simp only [Facade.work, paused]
          rcases hypothesis awaits later with ⟨left, aborted, seen⟩
          exact ⟨left, aborted, .cons (.poll _) seen⟩
      | wait =>
          simp only [Facade.work, paused, awaits.wait]
          rcases hypothesis awaits.waited later with ⟨left, aborted, seen⟩
          exact ⟨left, aborted, .cons .wait seen⟩
      | pipeline =>
          simp only [Facade.work, paused]
          rcases hypothesis awaits later with ⟨left, aborted, seen⟩
          exact ⟨left, aborted, .cons .pipeline seen⟩
      | abort =>
          simp only [Facade.work, paused]
          exact ⟨awaits, rfl, .nil⟩
      | act change =>
          have impossible := passive (.act change) List.mem_cons_self
          cases impossible

end Awaits

/-- A call with host work is a call without it.  On an inline device in any state,
and under any policy, the two send the same commands, which are those of the
request and one question for its completion; they leave the same machine behind
and the facade unchanged, and each wait in the host work has the completion that
both calls end with.  That
the host work gives up, at any point of it, changes nothing but the result. -/
theorem scope_matches_run (inline : machine.unit.inner.mode = .inline)
    (passive : ∀ step ∈ steps, step.isPassive = true) {completion : Completion}
    {next : Facade} {after : Machine (Traced Simulated)}
    (ran : facade.run task machine = (.ok completion, next, after)) :
    ∃ sequence sent, facade.channel.commands task.message facade.word = .ok sequence ∧
      facade.dispatch task machine = (.ok (), sent) ∧
      after.unit.commands = machine.unit.commands ++ sequence ++ [facade.channel.check] ∧
      next = facade ∧
      facade.scope task steps machine =
        (if steps.any HostStep.isAbort then .error .hostWork
          else .ok ((facade.work none sent steps).observations, completion), facade, after) ∧
      List.Forall₂ (HostStep.Sees facade.channel.pipeline completion)
        (steps.takeWhile fun step => !step.isAbort)
        (facade.work none sent steps).observations := by
  rcases accepted : facade.dispatch task machine with ⟨_ | _, sent⟩
  · rw [run_of_error accepted] at ran
    cases ran
  · rw [run_of_ok accepted] at ran
    cases ran
    rcases dispatch_eq_ok_iff.mp accepted with ⟨_, dispatched⟩
    rcases Channel.dispatch_eq_ok_iff.mp dispatched with ⟨_, sequence, made, rfl⟩
    have sending : ((machine.store facade.word 0).issueAll sequence).Inline :=
      @Machine.Inline.issueAll (machine.store facade.word 0) inline sequence
    have awaits : facade.Awaits (facade.settle ((machine.store facade.word 0).issueAll sequence))
        none ((machine.store facade.word 0).issueAll sequence) := ⟨sending, rfl⟩
    rcases awaits.work passive with ⟨left, aborted, seen⟩
    refine ⟨sequence, _, made, rfl, ?_, rfl, ?_, seen⟩
    · rw [settle, Channel.commands_settle, Machine.commands_issueAll]
      rfl
    · rw [scope_of_ok accepted]
      dsimp only
      rw [left.wait, aborted]

/-- Two waits with a poll between them, and a give-up before any wait. -/
theorem scope_matches_run_snappy :
    let facade : Facade := ⟨⟨.snappyStandalone, .snappyCompress, Build.standaloneSnappyCompress,
      rfl⟩, .powerOn, .bounded 2, 0x100⟩
    let task : Task .snappyCompress := .snappyCompress ⟨0x1000, 3⟩ ⟨0x2000, 64⟩
    let machine := Machine.start (Traced.start (Simulated.powerOn .snappyStandalone .inline))
    ∃ completion after done, facade.run task machine = (.ok completion, facade, after) ∧
      facade.scope task [.wait, .poll, .wait] machine =
        (.ok ([.waited completion, .polled done, .waited completion], completion), facade, after) ∧
      facade.scope task [.poll, .abort] machine = (.error .hostWork, facade, after) := by
  intro facade task machine
  have accepted : facade.dispatch task machine = (.ok (), _) := rfl
  have ran := run_of_ok accepted
  have passive : ∀ step ∈ ([.wait, .poll, .wait] : List (HostStep (Traced Simulated))),
      step.isPassive = true := by simp [HostStep.isPassive]
  have passing : ∀ step ∈ ([.poll, .abort] : List (HostStep (Traced Simulated))),
      step.isPassive = true := by simp [HostStep.isPassive]
  rcases scope_matches_run rfl passive ran with ⟨_, sent, _, _, _, _, waits, seen⟩
  rcases scope_matches_run rfl passing ran with ⟨_, _, _, _, _, _, gives, _⟩
  generalize (facade.work none sent [.wait, .poll, .wait]).observations = observations at waits seen
  rcases seen with _ | ⟨⟨⟩, _ | ⟨⟨done⟩, _ | ⟨⟨⟩, ⟨⟩⟩⟩⟩
  exact ⟨_, _, done, ran, waits, gives⟩

end Facade

end RoccCodec
