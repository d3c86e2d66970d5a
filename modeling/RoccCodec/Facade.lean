import RoccCodec.Monitor
import RoccCodec.Region
import RoccCodec.Task

namespace RoccCodec

/-!
# Facades

A facade is a channel with the parameters last pushed through it, a policy for
its waits, and a completion word of its own.  `Facade.run` sends a request and
waits.  `Facade.scope` lets the host work meanwhile, and waits at the end if the
host work has not done so, also when the host work gives up.
-/

/-- A pipeline as its callers see it, with what was last pushed through it and the
address of its completion word. -/
structure Facade where
  channel : Channel
  tuning : Tuning
  policy : PollPolicy
  word : UInt64

/-- A step of host work while a request is in flight.  A change of the machine
from outside is a step too. -/
inductive HostStep (υ : Type) where
  | poll
  | wait
  | pipeline
  | act (change : Machine υ → Machine υ)
  | abort

/-- What a step of host work sees. -/
inductive Observation where
  | polled (done : Bool)
  | waited (completion : Completion)
  | pipeline (pipeline : Pipeline)
  | acted
  deriving DecidableEq, Repr

/-- A request in flight, as its host work left it, with the completion of the
first wait if there was one. -/
structure InFlight (υ : Type) where
  settled : Option Completion
  observations : List Observation
  aborted : Bool
  machine : Machine υ

namespace Facade

variable {υ : Type} [Accelerator υ]

/-- Open a pipeline of a build.  The policy is that of the accelerator, and
nothing is sent. -/
def open? (build : Build) (pipeline : Pipeline) (machine : Machine υ) :
    Except Fault (Facade × Machine υ) := do
  let channel ← Channel.open? build pipeline
  let (word, opened) := machine.allocate 8
  return (⟨channel, .powerOn, Accelerator.policy machine.unit, word⟩, opened)

def fence (facade : Facade) (machine : Machine υ) : Machine υ :=
  (machine.issue facade.channel.fence).2

/-- Push a parameter and remember it. -/
def push (facade : Facade) (parameter : Parameter) (machine : Machine υ) :
    Except Fault Unit × Facade × Machine υ :=
  match machine.attempt [facade.channel.push parameter] with
  | (.error fault, machine) => (.error fault, facade, machine)
  | (.ok (), machine) =>
    (.ok (), { facade with tuning := facade.tuning.record parameter }, machine)

def allocateRegion (capacity : Nat) (machine : Machine υ) : Except Fault Buffer × Machine υ :=
  match Region.check capacity with
  | .error fault => (.error fault, machine)
  | .ok () =>
    let (address, machine) := machine.allocate capacity
    (.ok ⟨address, UInt64.ofNat capacity⟩, machine)

/-- Flush the unit, push a history size if one is given, and allocate. -/
def setupRegion (facade : Facade) (capacity : Nat) (history : Option UInt64) (machine : Machine υ) :
    Except Fault Buffer × Facade × Machine υ :=
  let machine := facade.fence machine
  match history with
  | none =>
    let (region, machine) := allocateRegion capacity machine
    (region, facade, machine)
  | some bytes =>
    match facade.push (.history bytes) machine with
    | (.error fault, facade, machine) => (.error fault, facade, machine)
    | (.ok (), facade, machine) =>
      let (region, machine) := allocateRegion capacity machine
      (region, facade, machine)

/-- Wait for the request in flight, whatever its budget. -/
def settle (facade : Facade) (machine : Machine υ) : Completion × Machine υ :=
  facade.channel.settle facade.policy facade.word machine

/-- Check a task and send its request. -/
def dispatch (facade : Facade) (task : Task facade.channel.pipeline) (machine : Machine υ) :
    Except Failure Unit × Machine υ :=
  match task.request machine.memory with
  | .error failure => (.error failure, machine)
  | .ok request =>
    let (result, machine) := facade.channel.dispatch request facade.word machine
    (Failure.ofFault result, machine)

/-- Send the request of a task and wait for it. -/
def run (facade : Facade) (task : Task facade.channel.pipeline) (machine : Machine υ) :
    Except Failure Completion × Facade × Machine υ :=
  match facade.dispatch task machine with
  | (.error failure, machine) => (.error failure, facade, machine)
  | (.ok (), machine) =>
    let (completion, machine) := facade.settle machine
    (.ok completion, facade, machine)

/-- The completion of the request: the one already waited for, or a new wait. -/
def wait (facade : Facade) (settled : Option Completion) (machine : Machine υ) :
    Completion × Machine υ :=
  match settled with
  | some completion => (completion, machine)
  | none => facade.settle machine

/-- Do host work on a request in flight, step by step. -/
def work (facade : Facade) (settled : Option Completion) (machine : Machine υ) :
    List (HostStep υ) → InFlight υ
  | [] => ⟨settled, [], false, machine⟩
  | step :: rest =>
    let machine := machine.elapse .hostWork
    let follow (settled : Option Completion) (observation : Observation) (machine : Machine υ) :=
      let flight := facade.work settled machine rest
      { flight with observations := observation :: flight.observations }
    match step with
    | .poll =>
      let done := settled.isSome || (facade.channel.completion facade.word machine).done
      follow settled (.polled done) machine
    | .wait =>
      let (completion, machine) := facade.wait settled machine
      follow (some completion) (.waited completion) machine
    | .pipeline => follow settled (.pipeline facade.channel.pipeline) machine
    | .act change => follow settled .acted (change machine)
    | .abort => ⟨settled, [], true, machine⟩

/-- Send the request of a task, do host work while it is in flight, and wait
for it.  The wait comes before a give-up is passed on. -/
def scope (facade : Facade) (task : Task facade.channel.pipeline) (steps : List (HostStep υ))
    (machine : Machine υ) :
    Except Failure (List Observation × Completion) × Facade × Machine υ :=
  match facade.dispatch task machine with
  | (.error failure, machine) => (.error failure, facade, machine)
  | (.ok (), machine) =>
    let flight := facade.work none machine steps
    let (completion, machine) := facade.wait flight.settled flight.machine
    if flight.aborted then (.error .hostWork, facade, machine)
    else (.ok (flight.observations, completion), facade, machine)

variable {facade : Facade} {task : Task facade.channel.pipeline} {machine sent : Machine υ}
  {failure : Failure}

theorem push_of_ok {parameter : Parameter} {command : Command}
    (made : facade.channel.push parameter = .ok command) :
    facade.push parameter machine =
      (.ok (), { facade with tuning := facade.tuning.record parameter },
        (machine.issue command).2) := by
  simp only [push, made, Machine.attempt]

/-- A push that is refused leaves both sides as they were. -/
theorem push_of_error {parameter : Parameter} {fault : Fault}
    (refused : facade.channel.push parameter = .error fault) :
    facade.push parameter machine = (.error fault, facade, machine) := by
  simp only [push, refused, Machine.attempt]

theorem run_of_error (refused : facade.dispatch task machine = (.error failure, sent)) :
    facade.run task machine = (.error failure, facade, sent) := by
  simp only [run, refused]

theorem run_of_ok (accepted : facade.dispatch task machine = (.ok (), sent)) :
    facade.run task machine = (.ok (facade.settle sent).1, facade, (facade.settle sent).2) := by
  simp only [run, accepted]

theorem run_eq_error_iff :
    (facade.run task machine).1 = .error failure ↔
      (facade.dispatch task machine).1 = .error failure := by
  rcases sends : facade.dispatch task machine with ⟨_ | _, sent⟩
  · simp [run_of_error sends]
  · simp [run_of_ok sends]

theorem scope_of_error (refused : facade.dispatch task machine = (.error failure, sent))
    (steps : List (HostStep υ)) :
    facade.scope task steps machine = (.error failure, facade, sent) := by
  simp only [scope, refused]

theorem scope_of_ok (accepted : facade.dispatch task machine = (.ok (), sent))
    (steps : List (HostStep υ)) :
    facade.scope task steps machine =
      let flight := facade.work none sent steps
      let (completion, settled) := facade.wait flight.settled flight.machine
      (if flight.aborted then .error .hostWork else .ok (flight.observations, completion), facade,
        settled) := by
  simp only [scope, accepted]
  split <;> rfl

/-- Apart from host work that gives up, only a request that is not sent fails. -/
theorem scope_eq_error_iff (shown : failure ≠ .hostWork) (steps : List (HostStep υ)) :
    (facade.scope task steps machine).1 = .error failure ↔
      (facade.dispatch task machine).1 = .error failure := by
  rcases sends : facade.dispatch task machine with ⟨_ | _, sent⟩
  · simp [scope_of_error sends]
  · simp only [scope_of_ok sends, reduceCtorEq, iff_false]
    split
    · simp [shown.symm]
    · simp

end Facade

end RoccCodec
