import Mathlib.Data.List.Range
import Mathlib.Data.Nat.Find
import RoccCodec.Monitor

namespace RoccCodec

/-!
# What a wait reads

A wait asks the unit once, and then it reads the completion word until it finds
it set or has used up its reads.  Whatever accelerator stands behind the word,
the successive reads return some sequence of values, and every sequence comes
from an accelerator (`Replay.load_atRead`).  So a wait is described by the
sequence alone: which of its values is returned, after how many reads, and what
the unit and the watcher of the machine get to see of it.

`Channel.tally` is the loop of a wait with everything that is counted in it: the
reads, and the retries, which a 64-bit counter compares with the budget.
`Channel.polls_exactly` follows a wait under each policy, and the second wait of
one that must not give up.
-/

/-- What a host does towards a unit. -/
inductive Contact where
  | command (command : Command)
  | pause (pause : Pause)
  deriving DecidableEq, Repr

/-- An accelerator with a record of all that the host does towards it.  Its own
warnings are held back, so that those of the machine are all from the host. -/
structure Watched (υ : Type) where
  inner : υ
  contacts : List Contact

namespace Watched

instance {υ : Type} [Accelerator υ] : Accelerator (Watched υ) where
  policy watched := Accelerator.policy watched.inner
  handle command watched memory :=
    let (answer, effect) := Accelerator.handle command watched.inner memory
    (answer, .quiet ⟨effect.unit, watched.contacts ++ [.command command]⟩ effect.memory)
  elapse pause watched memory :=
    let effect := Accelerator.elapse pause watched.inner memory
    .quiet ⟨effect.unit, watched.contacts ++ [.pause pause]⟩ effect.memory

end Watched

namespace PollPolicy

/-- What comes between the read with this number and the next one.  A wait with a
budget reports that it is spent, and the reads after that have no limit. -/
def pause (policy : PollPolicy) (number : Nat) : Pause :=
  match policy with
  | .bounded budget => if number = budget.toNat then .report else .retry
  | .spin | .skip => .retry

/-- The budget has been reported as spent before the read with this number. -/
def spent (policy : PollPolicy) (number : Nat) : Bool :=
  match policy with
  | .bounded budget => decide (budget.toNat < number)
  | .spin | .skip => false

theorem pause_retry_or_report (policy : PollPolicy) (number : Nat) :
    policy.pause number = .retry ∨ policy.pause number = .report := by
  unfold pause
  split
  · split
    · exact Or.inr rfl
    · exact Or.inl rfl
  · exact Or.inl rfl
  · exact Or.inl rfl

theorem pause_eq (policy : PollPolicy) (number : Nat) :
    policy.pause number =
      if policy.spent number = false ∧ policy.spent (number + 1) = true then .report else .retry := by
  cases policy with
  | bounded budget =>
      have here : (budget.toNat < number) = False ∧ (budget.toNat < number + 1) = True ↔
          number = budget.toNat := by
        simp only [eq_iff_iff, iff_false, iff_true]
        omega
      simp [pause, spent, ← here]
  | spin => rfl
  | skip => rfl

theorem spent_succ {policy : PollPolicy} {number : Nat} (before : policy.spent number = true) :
    policy.spent (number + 1) = true := by
  cases policy with
  | bounded budget =>
      simp only [spent, decide_eq_true_eq] at before ⊢
      omega
  | spin => cases before
  | skip => cases before

end PollPolicy

namespace Machine

variable {υ : Type} [Accelerator υ]

def proceed (machine : Machine υ) (pause : Pause) : Machine υ :=
  if pause = .report then (machine.notify .requestStalled).elapse .report
  else machine.elapse pause

end Machine

/-- Reading goes on until a read finds the word set, or to the end of the limit. -/
structure Stops (seen : Nat → Completion) (limit number : Nat) : Prop where
  within : number ≤ limit
  clear : ∀ earlier < number, (seen earlier).done = false
  stop : number = limit ∨ (seen number).done = true

namespace Stops

variable {seen : Nat → Completion} {limit number : Nat}

/-- Every sequence of reads stops somewhere. -/
theorem exists_stops (seen : Nat → Completion) (limit : Nat) : ∃ number, Stops seen limit number := by
  by_cases set : ∃ number, (seen number).done = true
  · have clear : ∀ earlier < Nat.find set, (seen earlier).done = false := fun earlier before =>
      Bool.eq_false_iff.mpr (Nat.find_min set before)
    by_cases within : Nat.find set ≤ limit
    · exact ⟨Nat.find set, within, clear, Or.inr (Nat.find_spec set)⟩
    · refine ⟨limit, Nat.le_refl limit, fun earlier before => clear earlier ?_, Or.inl rfl⟩
      exact before.trans (Nat.lt_of_not_le within)
  · refine ⟨limit, Nat.le_refl limit, fun earlier _ => ?_, Or.inl rfl⟩
    exact Bool.eq_false_iff.mpr fun done => set ⟨earlier, done⟩

theorem unique {other : Nat} (stops : Stops seen limit number) (others : Stops seen limit other) :
    number = other := by
  -- Of two reads, the earlier one is not set and is not at the limit either.
  have least : ∀ {early late}, Stops seen limit early → Stops seen limit late → late ≤ early := by
    intro early late stops later
    by_contra before
    have less : early < late := Nat.lt_of_not_le before
    rcases stops.stop with last | set
    · exact before (last ▸ later.within)
    · rw [later.clear early less] at set
      cases set
  exact Nat.le_antisymm (least others stops) (least stops others)

/-- Where the word is not set, the limit has been reached. -/
theorem eq_limit (stops : Stops seen limit number) (unset : (seen number).done = false) :
    number = limit := by
  rcases stops.stop with last | set
  · exact last
  · rw [unset] at set
    cases set

theorem clear_through (stops : Stops seen limit number) (unset : (seen number).done = false) :
    ∀ earlier ≤ limit, (seen earlier).done = false := by
  cases stops.eq_limit unset
  intro earlier before
  rcases Nat.lt_or_eq_of_le before with less | rfl
  · exact stops.clear earlier less
  · exact unset

end Stops

/-- What the loop of a wait has done: what its reads returned, the oldest first,
and the counter that is compared with the budget. -/
structure Reading (υ : Type) where
  reads : List Completion
  retries : Nat
  machine : Machine υ

namespace Channel

variable {υ : Type} [Accelerator υ]

/-- The machine at the read with this number of a wait. -/
def atRead (channel : Channel) (policy : PollPolicy) (machine : Machine υ) : Nat → Machine υ
  | 0 => channel.checkDone machine
  | number + 1 => (channel.atRead policy machine number).proceed (policy.pause number)

/-- What the read with this number returns. -/
def seen (channel : Channel) (policy : PollPolicy) (word : UInt64) (machine : Machine υ)
    (number : Nat) : Completion :=
  channel.completion word (channel.atRead policy machine number)

/-- Read the word until it is set or the budget has been counted out. -/
def tally (channel : Channel) (word : UInt64) (budget retries : Nat) (machine : Machine υ) :
    Except Overflow (Reading υ) :=
  let completion := channel.completion word machine
  if completion.done then .ok ⟨[completion], retries, machine⟩
  else if budget ≤ retries then .ok ⟨[completion], retries, machine⟩
  else
    match _counted : Length.add retries 1 with
    | .error overflow => .error overflow
    | .ok more =>
      (channel.tally word budget more (machine.elapse .retry)).map fun rest =>
        { rest with reads := completion :: rest.reads }
termination_by budget - retries
decreasing_by
  have value := (Length.add_eq_ok_iff.mp _counted).1
  omega

variable {channel : Channel} {policy : PollPolicy} {word : UInt64} {machine : Machine υ}
  {budget retries first number : Nat}

/-- The loop with its counters does what the loop without them does. -/
theorem spin_of_tally {result : Reading υ}
    (counted : channel.tally word budget retries machine = .ok result) :
    result.reads.getLast? = some (channel.spin word (budget - retries) machine).1 ∧
      result.machine = (channel.spin word (budget - retries) machine).2 := by
  fun_induction tally channel word budget retries machine generalizing result with
  | case1 retries machine =>
      rename_i set
      cases counted
      rw [spin_of_done set]
      exact ⟨rfl, rfl⟩
  | case2 retries machine =>
      rename_i spent
      cases counted
      rw [Nat.sub_eq_zero_of_le spent]
      exact ⟨rfl, rfl⟩
  | case3 => cases counted
  | case4 retries machine =>
      rename_i unset left more next hypothesis
      cases later : channel.tally word budget more (machine.elapse .retry) with
      | error overflow =>
          rw [later] at counted
          cases counted
      | ok rest =>
          rw [later] at counted
          cases counted
          rcases hypothesis later with ⟨last, reached⟩
          have fewer : budget - retries = budget - more + 1 := by
            have value := (Length.add_eq_ok_iff.mp next).1
            omega
          have again : channel.spin word (budget - retries) machine =
              channel.spin word (budget - more) (machine.elapse .retry) := by
            rw [fewer]
            exact if_neg unset
          rw [again]
          refine ⟨?_, reached⟩
          rw [List.getLast?_cons, last]
          rfl

/-- A loop that is not at its end counts a retry and reads again. -/
theorem tally_succ (fits : budget ≤ endless) (left : retries < budget)
    (unset : (channel.completion word machine).done = false) :
    channel.tally word budget retries machine =
      (channel.tally word budget (retries + 1) (machine.elapse .retry)).map fun rest =>
        { rest with reads := channel.completion word machine :: rest.reads } := by
  have counted : Length.add retries 1 = .ok (retries + 1) := by
    apply Length.add_of_lt
    have least : endless < Length.limit := by decide
    omega
  rw [tally, unset, if_neg (by simp), if_neg (by omega)]
  split
  · rename_i overflow refused
    rw [counted] at refused
    cases refused
  · rename_i more next
    rw [counted] at next
    cases next
    rfl

/-- The loop reads on until a read finds the word set or the counter has come to
the budget, and the counter stays within 64 bits. -/
theorem tally_atRead (fits : budget ≤ endless) (within : retries + number ≤ budget)
    (retried : ∀ step < number, policy.pause (first + step) = .retry)
    (clear : ∀ step < number, (channel.seen policy word machine (first + step)).done = false)
    (stop : retries + number = budget ∨
      (channel.seen policy word machine (first + number)).done = true) :
    channel.tally word budget retries (channel.atRead policy machine first) =
      .ok ⟨(List.range (number + 1)).map fun step =>
          channel.seen policy word machine (first + step),
        retries + number, channel.atRead policy machine (first + number)⟩ := by
  induction number generalizing first retries with
  | zero =>
      rw [tally]
      rcases stop with spent | set
      · simp only [Nat.add_zero] at spent
        simp [spent, seen]
      · simp only [Nat.add_zero, seen] at set
        simp [set, seen]
  | succ number hypothesis =>
      have pause : policy.pause first = .retry := retried 0 (Nat.zero_lt_succ number)
      have unset : (channel.completion word (channel.atRead policy machine first)).done = false :=
        clear 0 (Nat.zero_lt_succ number)
      have later := @hypothesis (retries + 1) (first + 1) (by omega)
      simp only [Nat.add_right_comm _ 1] at later
      have rest := later (fun step before => retried (step + 1) (Nat.succ_lt_succ before))
        (fun step before => clear (step + 1) (Nat.succ_lt_succ before)) stop
      have next : channel.atRead policy machine (first + 1) =
          (channel.atRead policy machine first).elapse .retry := by
        rw [atRead, pause]
        rfl
      have reads : List.range (number + 1 + 1) = 0 :: (List.range (number + 1)).map Nat.succ :=
        List.range_succ_eq_map
      rw [tally_succ fits (by omega) unset, ← next, rest, reads, List.map_cons, List.map_map]
      rfl

theorem spin_atRead (fits : budget ≤ endless) (within : number ≤ budget)
    (retried : ∀ step < number, policy.pause (first + step) = .retry)
    (clear : ∀ step < number, (channel.seen policy word machine (first + step)).done = false)
    (stop : number = budget ∨ (channel.seen policy word machine (first + number)).done = true) :
    channel.spin word budget (channel.atRead policy machine first) =
      (channel.seen policy word machine (first + number),
        channel.atRead policy machine (first + number)) := by
  have counted := tally_atRead fits ((Nat.zero_add number).trans_le within) retried clear
    (by rwa [Nat.zero_add])
  rcases spin_of_tally counted with ⟨last, reached⟩
  rw [List.range_succ, List.map_append, List.map_singleton, List.getLast?_concat,
    Option.some.injEq] at last
  exact Prod.ext last.symm reached.symm

/-! ## What a wait returns -/

theorem await_spin (stops : Stops (channel.seen .spin word machine) endless number) :
    channel.await .spin word machine =
      (.ok (channel.seen .spin word machine number), channel.atRead .spin machine number) := by
  have spun := @spin_atRead _ _ channel .spin word machine endless 0 number (Nat.le_refl _)
    stops.within (fun _ _ => rfl)
  simp only [Nat.zero_add] at spun
  have waited := spun stops.clear stops.stop
  unfold await
  rw [atRead] at waited
  simp only [waited]

theorem endless_of_toNat (budget : UInt64) : budget.toNat ≤ endless := by
  have least := budget.toNat_lt
  unfold endless
  omega

section Bounded

variable {limit : UInt64}

theorem tally_bounded
    (stops : Stops (channel.seen (.bounded limit) word machine) limit.toNat number) :
    channel.tally word limit.toNat 0 (channel.atRead (.bounded limit) machine 0) =
      .ok ⟨(List.range (number + 1)).map (channel.seen (.bounded limit) word machine), number,
        channel.atRead (.bounded limit) machine number⟩ := by
  have counted := @tally_atRead _ _ channel (.bounded limit) word machine limit.toNat 0 0 number
    (endless_of_toNat limit)
  simp only [Nat.zero_add] at counted
  refine counted stops.within ?_ stops.clear stops.stop
  intro step before
  exact if_neg (Nat.ne_of_lt (before.trans_le stops.within))

/-- A wait with a budget reads until the word is set or the budget is spent. -/
theorem spin_bounded
    (stops : Stops (channel.seen (.bounded limit) word machine) limit.toNat number) :
    channel.spin word limit.toNat (channel.checkDone machine) =
      (channel.seen (.bounded limit) word machine number,
        channel.atRead (.bounded limit) machine number) := by
  have spun := @spin_atRead _ _ channel (.bounded limit) word machine limit.toNat 0 number
    (endless_of_toNat limit) stops.within
  simp only [Nat.zero_add] at spun
  refine spun ?_ stops.clear stops.stop
  intro step before
  exact if_neg (Nat.ne_of_lt (before.trans_le stops.within))

theorem await_bounded
    (stops : Stops (channel.seen (.bounded limit) word machine) limit.toNat number) :
    channel.await (.bounded limit) word machine =
      if (channel.seen (.bounded limit) word machine number).done then
        (.ok (channel.seen (.bounded limit) word machine number),
          channel.atRead (.bounded limit) machine number)
      else
        (.error (.stalled limit), channel.atRead (.bounded limit) machine (limit.toNat + 1)) := by
  unfold await
  simp only [spin_bounded stops]
  cases set : (channel.seen (.bounded limit) word machine number).done with
  | true => rfl
  | false =>
      cases stops.eq_limit set
      simp [atRead, PollPolicy.pause, Machine.proceed]

theorem settle_bounded
    (stops : Stops (channel.seen (.bounded limit) word machine) (limit.toNat + 1 + endless)
      number) :
    channel.settle (.bounded limit) word machine =
      (channel.seen (.bounded limit) word machine number,
        channel.atRead (.bounded limit) machine number) := by
  rcases Stops.exists_stops (channel.seen (.bounded limit) word machine) limit.toNat with
    ⟨last, first⟩
  rw [settle, await_bounded first]
  cases set : (channel.seen (.bounded limit) word machine last).done with
  | true =>
      -- The word is set within the budget, and the two waits stop at one read.
      have within : last ≤ limit.toNat + 1 + endless := by
        have short := first.within
        omega
      rw [if_pos rfl, stops.unique ⟨within, first.clear, Or.inr set⟩]
  | false =>
      -- The second wait begins behind the report, with as many reads as there can be.
      have clear := first.clear_through set
      have beyond : limit.toNat < number := by
        by_contra early
        have last := stops.eq_limit (clear number (Nat.le_of_not_lt early))
        omega
      rcases Nat.exists_eq_add_of_lt beyond with ⟨step, rfl⟩
      rw [if_neg Bool.false_ne_true]
      dsimp only
      have around : limit.toNat + step + 1 = limit.toNat + 1 + step := by omega
      rw [around] at stops ⊢
      have within := stops.within
      refine spin_atRead (Nat.le_refl _) (by omega) (fun later _ => if_neg (by omega))
        (fun later before => stops.clear _ (by omega)) ?_
      rcases stops.stop with last | done
      · exact Or.inl (by omega)
      · exact Or.inr done

end Bounded

/-- How often a wait that must not give up reads again before it takes a word that is
not set. -/
def patience : PollPolicy → Nat
  | .skip => 0
  | .spin => endless
  | .bounded limit => limit.toNat + 1 + endless

/-- A word that stays clear is read to the end. -/
theorem settle_of_unset
    (unset : ∀ number, (channel.seen policy word machine number).done = false) :
    channel.settle policy word machine =
      (channel.seen policy word machine (patience policy),
        channel.atRead policy machine (patience policy)) := by
  have stops : Stops (channel.seen policy word machine) (patience policy) (patience policy) :=
    ⟨Nat.le_refl _, fun earlier _ => unset earlier, .inl rfl⟩
  cases policy with
  | skip => rfl
  | spin =>
      unfold settle
      rw [await_spin stops]
  | bounded limit => exact settle_bounded stops

end Channel

/-! ## What others get to see of a wait -/

namespace Machine

variable {υ : Type} [Accelerator υ]

theorem contacts_proceed (machine : Machine (Watched υ)) (pause : Pause) :
    (machine.proceed pause).unit.contacts = machine.unit.contacts ++ [.pause pause] := by
  unfold proceed
  split
  · rename_i reported
    rw [reported]
    rfl
  · rfl

theorem notices_proceed (machine : Machine (Watched υ)) (pause : Pause) :
    (machine.proceed pause).notices =
      machine.notices ++ if pause = .report then [.requestStalled] else [] := by
  unfold proceed
  split
  · exact List.append_nil _
  · rfl

end Machine

namespace Channel

variable {υ : Type} [Accelerator υ] {channel : Channel} {policy : PollPolicy} {word : UInt64}
  {machine : Machine (Watched υ)} {number : Nat}

/-- Up to a read, the unit has been asked once and then met with the pauses between
the reads. -/
theorem contacts_atRead (channel : Channel) (policy : PollPolicy) (machine : Machine (Watched υ))
    (number : Nat) :
    (channel.atRead policy machine number).unit.contacts =
      machine.unit.contacts ++ [.command channel.check, .pause .command] ++
        (List.range number).map fun step => .pause (policy.pause step) := by
  induction number with
  | zero =>
      rw [List.range_zero, List.map_nil, List.append_nil]
      exact List.append_assoc machine.unit.contacts [.command channel.check] [.pause .command]
  | succ number hypothesis =>
      rw [atRead, Machine.contacts_proceed, hypothesis, List.range_succ, List.map_append,
        List.append_assoc]
      rfl

/-- There is one warning, and it comes when the budget is spent. -/
theorem notices_atRead (channel : Channel) (policy : PollPolicy) (machine : Machine (Watched υ))
    (number : Nat) :
    (channel.atRead policy machine number).notices =
      machine.notices ++ if policy.spent number then [.requestStalled] else [] := by
  induction number with
  | zero =>
      have none : policy.spent 0 = false := by
        cases policy <;> simp [PollPolicy.spent]
      rw [none]
      exact congrArg (fun notices => notices ++ []) (List.append_nil machine.notices)
  | succ number hypothesis =>
      rw [atRead, Machine.notices_proceed, hypothesis, PollPolicy.pause_eq]
      cases before : policy.spent number with
      | true =>
          have after := PollPolicy.spent_succ before
          simp [after]
      | false => cases policy.spent (number + 1) <;> simp

end Channel

namespace Channel

variable {υ : Type} [Accelerator υ] {channel : Channel} {policy : PollPolicy} {word : UInt64}
  {machine : Machine υ} {values : Nat → UInt64} {number : Nat}

/-- Each policy waits in its own way, and all of them read the same sequence.  Let
the reads of the word return these values, whatever they are.  A wait asks the unit
once, before the first read, and between two reads it pauses once.  It returns the
first value that is set in the width of the pipeline:

* without a limit, if this is among the first 2^64 reads;
* with a budget, if this is among the reads that the budget allows, and else it
  reports a stall after one read more than the budget, with one warning;
* without a second look, whatever the first read returns.

A wait that must not give up does not stop at its budget.  It returns the first
value that is set if this is among the 2^64 reads that follow, and it has warned
once if none of the reads within the budget was set, and else not at all.  The
counter of the retries stays within 64 bits for every budget. -/
theorem polls_exactly (channel : Channel) (policy : PollPolicy) (word : UInt64)
    (machine : Machine (Watched υ)) {values : Nat → UInt64}
    (reads : ∀ number, (channel.atRead policy machine number).load word = values number) :
    let seen := fun number => Completion.mk (values number) channel.width
    let after := channel.atRead policy machine
    (∀ number,
      (after number).unit.contacts =
        machine.unit.contacts ++ [.command channel.check, .pause .command] ++
          (List.range number).map (fun step => .pause (policy.pause step)) ∧
      (after number).notices =
        machine.notices ++ if policy.spent number then [.requestStalled] else []) ∧
    (policy = .skip →
      channel.await policy word machine = (.ok (seen 0), after 0) ∧
      channel.settle policy word machine = (seen 0, after 0)) ∧
    (policy = .spin → ∀ number, Stops seen endless number →
      channel.await policy word machine = (.ok (seen number), after number) ∧
      channel.settle policy word machine = (seen number, after number)) ∧
    ∀ budget, policy = .bounded budget →
      (∀ number, Stops seen budget.toNat number →
        channel.await policy word machine =
          (if (seen number).done then (.ok (seen number), after number)
            else (.error (.stalled budget), after (budget.toNat + 1))) ∧
        channel.tally word budget.toNat 0 (after 0) =
          .ok ⟨(List.range (number + 1)).map seen, number, after number⟩) ∧
      ∀ number, Stops seen (budget.toNat + 1 + endless) number →
        channel.settle policy word machine = (seen number, after number) ∧
        (policy.spent number = true ↔ ∀ earlier ≤ budget.toNat, (seen earlier).done = false) := by
  intro seen after
  have read : channel.seen policy word machine = seen := by
    funext number
    unfold Channel.seen completion
    rw [reads]
  rw [← read]
  refine ⟨fun number => ⟨channel.contacts_atRead policy machine number,
    channel.notices_atRead policy machine number⟩, ?_, ?_, ?_⟩
  · rintro rfl
    exact ⟨rfl, rfl⟩
  · rintro rfl number stops
    have waited := await_spin stops
    refine ⟨waited, ?_⟩
    rw [settle, waited]
  · rintro budget rfl
    refine ⟨fun number stops => ⟨await_bounded stops, tally_bounded stops⟩, ?_⟩
    intro number stops
    refine ⟨settle_bounded stops, ?_⟩
    rw [PollPolicy.spent, decide_eq_true_eq]
    constructor
    · intro beyond earlier before
      exact stops.clear earlier (before.trans_lt beyond)
    · intro clear
      by_contra early
      have last := stops.eq_limit (clear number (Nat.le_of_not_lt early))
      omega

end Channel

/-! ## Every sequence is read from some accelerator -/

/-- An accelerator that shows a sequence of values in a word, one after the other.
It moves on when it is asked and when a wait reads again. -/
structure Replay where
  word : UInt64
  values : Nat → UInt64
  next : Nat

namespace Replay

def advance (replay : Replay) (memory : Memory) : Effect Replay :=
  .quiet { replay with next := replay.next + 1 }
    (memory.store replay.word (replay.values replay.next))

instance : Accelerator Replay where
  policy _ := .spin
  handle _ replay memory := (0, replay.advance memory)
  elapse pause replay memory :=
    match pause with
    | .retry | .report => replay.advance memory
    | .command | .hostWork => .quiet replay memory

variable {word : UInt64} {values : Nat → UInt64} {next : Nat} {machine : Machine (Watched Replay)}

theorem load_proceed (held : machine.unit.inner = ⟨word, values, next⟩) (policy : PollPolicy)
    (number : Nat) :
    (machine.proceed (policy.pause number)).unit.inner = ⟨word, values, next + 1⟩ ∧
      (machine.proceed (policy.pause number)).load word = values next := by
  rcases machine with ⟨⟨replay, contacts⟩, memory, notices, free⟩
  cases held
  have stored := Memory.load_store memory word (values next)
  rcases policy.pause_retry_or_report number with again | reported
  · rw [again]
    exact ⟨rfl, stored⟩
  · rw [reported]
    exact ⟨rfl, stored⟩

/-- The reads of a wait return the sequence from its start. -/
theorem load_atRead (channel : Channel) (policy : PollPolicy)
    (fresh : machine.unit.inner = ⟨word, values, 0⟩) (number : Nat) :
    (channel.atRead policy machine number).load word = values number := by
  have shown : (channel.atRead policy machine number).unit.inner = ⟨word, values, number + 1⟩ ∧
      (channel.atRead policy machine number).load word = values number := by
    induction number with
    | zero =>
        rcases machine with ⟨⟨replay, contacts⟩, memory, notices, free⟩
        cases fresh
        exact ⟨rfl, Memory.load_store memory word (values 0)⟩
    | succ number hypothesis => exact load_proceed hypothesis.1 policy number
  exact shown.2

end Replay

namespace Channel

/-- The lower half of the word is set at the fifth read, behind a budget of two. -/
theorem polls_exactly_replay :
    let channel : Channel := ⟨.compressor, .zstdCompress, Build.compressorZstdCompress, rfl⟩
    let values := fun number => if number = 4 then 17 else 0x100000000
    let machine := Machine.start (Watched.mk (Replay.mk 0x100 values 0) [])
    (∀ number, (channel.atRead (.bounded 2) machine number).load 0x100 = values number) ∧
      channel.await (.bounded 2) 0x100 machine =
        (.error (.stalled 2), channel.atRead (.bounded 2) machine 3) ∧
      channel.settle (.bounded 2) 0x100 machine =
        (⟨17, .bits32⟩, channel.atRead (.bounded 2) machine 4) ∧
      (channel.atRead (.bounded 2) machine 4).notices = [.requestStalled] := by
  intro channel values machine
  have reads := @Replay.load_atRead 0x100 values machine channel (.bounded 2) rfl
  rcases polls_exactly channel (.bounded 2) 0x100 machine reads with ⟨seen, _, _, bounded⟩
  rcases bounded 2 rfl with ⟨awaits, settles⟩
  have clear : ∀ earlier < 4, (Completion.mk (values earlier) channel.width).done = false := by
    decide
  have stalled := awaits 2 ⟨by decide, fun earlier before => clear earlier (by omega), Or.inl rfl⟩
  have settled := settles 4 ⟨by decide, clear, Or.inr (by decide)⟩
  refine ⟨reads, ?_, settled.1, (seen 4).2⟩
  rw [stalled.1, clear 2 (by decide)]
  rfl

end Channel

end RoccCodec
