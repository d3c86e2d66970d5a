import RoccCodec.Accelerator
import RoccCodec.Channel

namespace RoccCodec

/-!
# Waiting for a completion word

Between two reads of the word the accelerator works on.  `Channel.await` reports
a spent budget as a fault.  `Channel.settle` warns and goes on reading; only a
policy that reads the word once makes it return a word that is not set.
-/

namespace Channel

variable {υ : Type} [Accelerator υ]

/-- The completion word as the pipeline reads it. -/
def completion (channel : Channel) (word : UInt64) (machine : Machine υ) : Completion :=
  ⟨machine.load word, channel.width⟩

/-- Read the word until it is set, repeating the read at most `budget` times. -/
def spin (channel : Channel) (word : UInt64) : Nat → Machine υ → Completion × Machine υ
  | 0, machine => (channel.completion word machine, machine)
  | budget + 1, machine =>
    let completion := channel.completion word machine
    if completion.done then (completion, machine)
    else channel.spin word budget (machine.elapse .retry)

/-- The budget of a wait without a limit. -/
def endless : Nat := 0xFFFFFFFFFFFFFFFF

def checkDone (channel : Channel) (machine : Machine υ) : Machine υ :=
  (machine.issue channel.check).2

/-- Wait for the word, and give up when the budget of the policy is spent. -/
def await (channel : Channel) (policy : PollPolicy) (word : UInt64) (machine : Machine υ) :
    Except Fault Completion × Machine υ :=
  let machine := channel.checkDone machine
  match policy with
  | .skip => (.ok (channel.completion word machine), machine)
  | .spin =>
    let (completion, machine) := channel.spin word endless machine
    (.ok completion, machine)
  | .bounded budget =>
    let (completion, machine) := channel.spin word budget.toNat machine
    if completion.done then (.ok completion, machine)
    else (.error (.stalled budget), (machine.notify .requestStalled).elapse .report)

/-- Wait for the word, and warn when the budget of the policy is spent. -/
def settle (channel : Channel) (policy : PollPolicy) (word : UInt64) (machine : Machine υ) :
    Completion × Machine υ :=
  match channel.await policy word machine with
  | (.ok completion, machine) => (completion, machine)
  | (.error _, machine) => channel.spin word endless machine

/-- A word that is set is read once. -/
theorem spin_of_done {channel : Channel} {word : UInt64} {machine : Machine υ}
    (set : (channel.completion word machine).done = true) (budget : Nat) :
    channel.spin word budget machine = (channel.completion word machine, machine) := by
  cases budget with
  | zero => rfl
  | succ budget => simp [spin, set]

variable {holds : Machine υ → Prop}

theorem spin_keeps (elapse : ∀ machine pause, holds machine → holds (machine.elapse pause))
    (channel : Channel) (word : UInt64) (budget : Nat) {machine : Machine υ}
    (held : holds machine) : holds (channel.spin word budget machine).2 := by
  induction budget generalizing machine with
  | zero => exact held
  | succ budget hypothesis =>
      simp only [spin]
      split
      · exact held
      · exact hypothesis (elapse machine .retry held)

/-- After the question of a wait there are only pauses and warnings. -/
theorem settle_keeps (elapse : ∀ machine pause, holds machine → holds (machine.elapse pause))
    (notify : ∀ machine notice, holds machine → holds (machine.notify notice))
    (channel : Channel) (policy : PollPolicy) (word : UInt64) {machine : Machine υ}
    (asked : holds (channel.checkDone machine)) : holds (channel.settle policy word machine).2 := by
  cases policy with
  | skip => exact asked
  | spin => exact spin_keeps elapse channel word endless asked
  | bounded budget =>
      unfold settle await
      dsimp only
      have read := spin_keeps elapse channel word budget.toNat asked
      cases (channel.spin word budget.toNat (channel.checkDone machine)).1.done with
      | true => exact read
      | false =>
          exact spin_keeps elapse channel word endless
            (elapse _ .report (notify _ .requestStalled read))

end Channel

end RoccCodec
