import RoccCodec.Device.Absent
import RoccCodec.Proofs.HostWork

namespace RoccCodec

/-!
# What a poll tells of a request in flight

While a request is in flight, the unit stores to its completion word once, and
the host looks at the word again and again.  `Posting` describes such a unit: at
any moment it may store any value, and what it has stored stays.  A poll is
right as long as it reads the word.  It does not read the word once a wait has
returned, and not every wait returns a word that is set: one that reads the word
once returns what it has found, and so does one that has used up its reads.

`Facade.poll_iff_posted` says when a poll is answered with yes, and that this
answer is not taken back.  `Facade.poll_without_post` is a request that is polled
as done though nothing has been stored.
-/

/-- What may have been stored later: a word that has been stored is not stored to
again. -/
def Follows (posted later : Option UInt64) : Prop := posted = none ∨ later = posted

namespace Follows

theorem refl (posted : Option UInt64) : Follows posted posted := Or.inr rfl

theorem trans {first second third : Option UInt64} (before : Follows first second)
    (after : Follows second third) : Follows first third := by
  rcases before with rfl | rfl
  · exact Or.inl rfl
  · exact after

theorem eq_some {value : UInt64} {later : Option UInt64} (follows : Follows (some value) later) :
    later = some value := by
  rcases follows with impossible | same
  · cases impossible
  · exact same

end Follows

/-- A word that an accelerator stores to at most once, while its host sends no
more than questions.  It is cleared at first, and `has` says what has been
stored. -/
structure Posting {υ : Type} [Accelerator υ] (channel : Channel) (word : UInt64)
    (has : Option UInt64 → Machine υ → Prop) : Prop where
  load : ∀ {posted machine}, has posted machine → machine.load word = posted.getD 0
  ask : ∀ {posted machine}, has posted machine →
    ∃ later, Follows posted later ∧ has later (channel.checkDone machine)
  elapse : ∀ {posted machine} pause, has posted machine →
    ∃ later, Follows posted later ∧ has later (machine.elapse pause)
  notify : ∀ {posted machine} notice, has posted machine → has posted (machine.notify notice)

namespace Channel

variable {υ : Type} [Accelerator υ] (channel : Channel) (word : UInt64)

/-- Nothing happens between the last read of a wait and its end. -/
theorem spin_read (budget : Nat) (machine : Machine υ) :
    (channel.spin word budget machine).1 =
      channel.completion word (channel.spin word budget machine).2 := by
  induction budget generalizing machine with
  | zero => rfl
  | succ budget hypothesis =>
      rw [spin]
      split
      · rfl
      · exact hypothesis (machine.elapse .retry)

theorem settle_read (policy : PollPolicy) (machine : Machine υ) :
    (channel.settle policy word machine).1 =
      channel.completion word (channel.settle policy word machine).2 := by
  cases policy with
  | skip => rfl
  | spin => exact channel.spin_read word endless (channel.checkDone machine)
  | bounded budget =>
      have read := channel.spin_read word budget.toNat (channel.checkDone machine)
      unfold settle await
      dsimp only
      cases (channel.spin word budget.toNat (channel.checkDone machine)).1.done with
      | true => exact read
      | false => exact channel.spin_read word endless _

end Channel

namespace Posting

variable {υ : Type} [Accelerator υ] {channel : Channel} {word : UInt64}
  {has : Option UInt64 → Machine υ → Prop} {posted : Option UInt64} {machine : Machine υ}

theorem settle (posting : Posting channel word has) (policy : PollPolicy)
    (held : has posted machine) :
    ∃ later, Follows posted later ∧ has later (channel.settle policy word machine).2 := by
  refine @Channel.settle_keeps _ _ (fun after => ∃ later, Follows posted later ∧ has later after)
    ?_ ?_ channel policy word machine (posting.ask held)
  · rintro machine pause ⟨between, follows, held⟩
    rcases posting.elapse pause held with ⟨later, after, held⟩
    exact ⟨later, follows.trans after, held⟩
  · rintro machine notice ⟨between, follows, held⟩
    exact ⟨between, follows, posting.notify notice held⟩

/-- A word is read as set exactly if a value has been stored that is not zero in
the width of the pipeline. -/
theorem done_iff (posting : Posting channel word has) (held : has posted machine) :
    (channel.completion word machine).done = true ↔
      ∃ value, posted = some value ∧ (Completion.mk value channel.width).done = true := by
  rw [Channel.completion, posting.load held]
  cases posted with
  | none => simp
  | some value => simp

end Posting

namespace Facade

variable {υ : Type} [Accelerator υ] {facade : Facade} {settled : Option Completion}
  {machine sent : Machine υ} {before steps rest : List (HostStep υ)}

/-- Host work goes on from where it is, unless it has given up. -/
theorem work_append (steady : ∀ step ∈ before, step.isAbort = false) :
    facade.work settled machine (before ++ rest) =
      let flight := facade.work settled machine before
      let later := facade.work flight.settled flight.machine rest
      { later with observations := flight.observations ++ later.observations } := by
  induction before generalizing settled machine with
  | nil => rfl
  | cons step before hypothesis =>
      have more := fun other member => steady other (List.mem_cons_of_mem step member)
      cases step with
      | poll => simp only [List.cons_append, work, hypothesis more]
      | wait => simp only [List.cons_append, work, hypothesis more]
      | pipeline => simp only [List.cons_append, work, hypothesis more]
      | act change => simp only [List.cons_append, work, hypothesis more]
      | abort => cases steady .abort List.mem_cons_self

/-- After a wait, host work sees no completion but the one of this wait. -/
theorem eq_of_waited_mem {completion other : Completion}
    (seen : .waited other ∈ (facade.work (some completion) machine steps).observations) :
    other = completion := by
  induction steps generalizing machine with
  | nil => cases seen
  | cons step rest hypothesis =>
      cases step with
      | poll =>
          rcases List.mem_cons.mp seen with impossible | later
          · cases impossible
          · exact hypothesis later
      | wait =>
          rcases List.mem_cons.mp seen with here | later
          · exact Observation.waited.inj here
          · exact hypothesis later
      | pipeline =>
          rcases List.mem_cons.mp seen with impossible | later
          · cases impossible
          · exact hypothesis later
      | act change =>
          rcases List.mem_cons.mp seen with impossible | later
          · cases impossible
          · exact hypothesis later
      | abort => cases seen

/-- The completion of a wait stays the one of the request. -/
theorem settled_work_some (completion : Completion) :
    (facade.work (some completion) machine steps).settled = some completion := by
  induction steps generalizing machine with
  | nil => rfl
  | cons step rest hypothesis =>
      cases step with
      | abort => rfl
      | _ => exact hypothesis

/-- The completion that is kept is the one that the waits have shown. -/
theorem settled_work_eq_some_iff {completion : Completion} :
    (facade.work none machine steps).settled = some completion ↔
      .waited completion ∈ (facade.work none machine steps).observations := by
  induction steps generalizing machine with
  | nil => simp [work]
  | cons step rest hypothesis =>
      cases step with
      | poll => simp [work, hypothesis]
      | wait =>
          simp only [work]
          rw [settled_work_some, List.mem_cons, Option.some.injEq, Observation.waited.injEq]
          constructor
          · exact fun same => Or.inl same.symm
          · rintro (same | later)
            · exact same.symm
            · exact (eq_of_waited_mem later).symm
      | pipeline => simp [work, hypothesis]
      | act change => simp [work, hypothesis]
      | abort => simp [work]

/-- A request in flight on a unit that posts its word: a completion that was set
when it was waited for was read from what has been stored. -/
structure Posted (facade : Facade) (has : Option UInt64 → Machine υ → Prop)
    (settled : Option Completion) (posted : Option UInt64) (machine : Machine υ) : Prop where
  held : has posted machine
  waited : ∀ completion, settled = some completion → completion.done = true →
    ∃ value, posted = some value ∧ (Completion.mk value facade.channel.width).done = true

namespace Posted

variable {has : Option UInt64 → Machine υ → Prop} {posted : Option UInt64}

theorem elapse (flight : facade.Posted has settled posted machine)
    (posting : Posting facade.channel facade.word has) (pause : Pause) :
    ∃ later, Follows posted later ∧ facade.Posted has settled later (machine.elapse pause) := by
  rcases posting.elapse pause flight.held with ⟨later, follows, held⟩
  refine ⟨later, follows, held, fun completion same done => ?_⟩
  rcases flight.waited completion same done with ⟨value, rfl, set⟩
  exact ⟨value, follows.eq_some, set⟩

theorem wait (flight : facade.Posted has settled posted machine)
    (posting : Posting facade.channel facade.word has) :
    ∃ later, Follows posted later ∧
      facade.Posted has (some (facade.wait settled machine).1) later
        (facade.wait settled machine).2 := by
  cases settled with
  | some completion => exact ⟨posted, .refl posted, flight⟩
  | none =>
      rcases posting.settle facade.policy flight.held with ⟨later, follows, held⟩
      refine ⟨later, follows, held, ?_⟩
      rintro completion ⟨⟩ done
      change (facade.settle machine).1.done = true at done
      rw [Facade.settle, facade.channel.settle_read] at done
      exact (posting.done_iff held).mp done

/-- Host work leaves the word to the unit. -/
theorem work (flight : facade.Posted has settled posted machine)
    (posting : Posting facade.channel facade.word has)
    (passive : ∀ step ∈ steps, step.isPassive = true) :
    ∃ later, Follows posted later ∧
      facade.Posted has (facade.work settled machine steps).settled later
        (facade.work settled machine steps).machine := by
  induction steps generalizing settled posted machine with
  | nil => exact ⟨posted, .refl posted, flight⟩
  | cons step rest hypothesis =>
      have more := fun other member => passive other (List.mem_cons_of_mem step member)
      rcases flight.elapse posting .hostWork with ⟨paused, first, waiting⟩
      cases step with
      | poll =>
          rcases hypothesis waiting more with ⟨later, second, left⟩
          exact ⟨later, first.trans second, left⟩
      | wait =>
          rcases waiting.wait posting with ⟨between, second, ended⟩
          rcases hypothesis ended more with ⟨later, third, left⟩
          exact ⟨later, (first.trans second).trans third, left⟩
      | pipeline =>
          rcases hypothesis waiting more with ⟨later, second, left⟩
          exact ⟨later, first.trans second, left⟩
      | abort => exact ⟨paused, first, waiting⟩
      | act change => cases passive (.act change) List.mem_cons_self

/-- The request is over as far as a poll can tell. -/
def Over (facade : Facade) (settled : Option Completion) (posted : Option UInt64) : Prop :=
  settled.isSome = true ∨
    ∃ value, posted = some value ∧ (Completion.mk value facade.channel.width).done = true

theorem Over.follow {later : Option UInt64} (known : Over facade settled posted)
    (follows : Follows posted later) : Over facade settled later := by
  rcases known with waited | ⟨value, rfl, set⟩
  · exact Or.inl waited
  · exact Or.inr ⟨value, follows.eq_some, set⟩

theorem over_iff (flight : facade.Posted has settled posted machine)
    (posting : Posting facade.channel facade.word has) :
    (settled.isSome || (facade.channel.completion facade.word machine).done) = true ↔
      Over facade settled posted := by
  rw [Bool.or_eq_true, posting.done_iff flight.held]
  exact Iff.rfl

/-- Once a poll is answered with yes, all later ones are. -/
theorem polled (flight : facade.Posted has settled posted machine)
    (posting : Posting facade.channel facade.word has)
    (passive : ∀ step ∈ steps, step.isPassive = true) (known : Over facade settled posted)
    {answer : Bool} (seen : .polled answer ∈ (facade.work settled machine steps).observations) :
    answer = true := by
  induction steps generalizing settled posted machine with
  | nil => cases seen
  | cons step rest hypothesis =>
      have more := fun other member => passive other (List.mem_cons_of_mem step member)
      rcases flight.elapse posting .hostWork with ⟨paused, follows, waiting⟩
      have still := known.follow follows
      cases step with
      | poll =>
          rcases List.mem_cons.mp seen with here | later
          · exact (Observation.polled.inj here).trans ((waiting.over_iff posting).mpr still)
          · exact hypothesis waiting more still later
      | wait =>
          rcases waiting.wait posting with ⟨between, _, ended⟩
          rcases List.mem_cons.mp seen with impossible | later
          · cases impossible
          · exact hypothesis ended more (Or.inl rfl) later
      | pipeline =>
          rcases List.mem_cons.mp seen with impossible | later
          · cases impossible
          · exact hypothesis waiting more still later
      | abort => cases seen
      | act change => cases passive (.act change) List.mem_cons_self

end Posted

variable {has : Option UInt64 → Machine υ → Prop} {posted : Option UInt64}

/-- A call returns what its host work has seen. -/
theorem observed_of_scope {task : Task facade.channel.pipeline} {observed : List Observation}
    {completion : Completion} (accepted : facade.dispatch task machine = (.ok (), sent))
    (returned : (facade.scope task steps machine).1 = .ok (observed, completion)) :
    observed = (facade.work none sent steps).observations := by
  rw [scope_of_ok accepted] at returned
  dsimp only at returned
  split at returned
  · cases returned
  · cases returned
    rfl

/-- A poll says yes exactly if the unit has stored a value that is not zero in the
width of the pipeline, or an earlier wait has returned a word that was not set;
and it is followed by no poll that says no.  This is so for every request that has
been sent, under every policy, whatever the host has done with the request before,
and for every unit that stores to the word once, at whatever moment. -/
theorem poll_iff_posted {task : Task facade.channel.pipeline}
    (accepted : facade.dispatch task machine = (.ok (), sent))
    (posting : Posting facade.channel facade.word has) (held : has posted sent)
    (passive : ∀ step ∈ before ++ rest, step.isPassive = true)
    (steady : ∀ step ∈ before, step.isAbort = false) :
    let flight := facade.work none sent before
    ∃ now answer later,
      Follows posted now ∧ has now (flight.machine.elapse .hostWork) ∧
      (facade.work none sent (before ++ .poll :: rest)).observations =
        flight.observations ++ .polled answer :: later ∧
      (∀ observed completion,
        (facade.scope task (before ++ .poll :: rest) machine).1 = .ok (observed, completion) →
          observed = flight.observations ++ .polled answer :: later) ∧
      (answer = true ↔
        (∃ value, now = some value ∧ (Completion.mk value facade.channel.width).done = true) ∨
        ∃ completion, .waited completion ∈ flight.observations ∧ completion.done = false) ∧
      (answer = true → ∀ other, .polled other ∈ later → other = true) := by
  intro flight
  have first := fun step member => passive step (List.mem_append_left rest member)
  have second := fun step member => passive step (List.mem_append_right before member)
  have fresh : facade.Posted has none posted sent := ⟨held, fun _ impossible => nomatch impossible⟩
  rcases fresh.work posting first with ⟨between, follows, left⟩
  rcases left.elapse posting .hostWork with ⟨now, after, polling⟩
  have observations : (facade.work none sent (before ++ .poll :: rest)).observations =
      flight.observations ++ .polled (flight.settled.isSome ||
          (facade.channel.completion facade.word (flight.machine.elapse .hostWork)).done) ::
        (facade.work flight.settled (flight.machine.elapse .hostWork) rest).observations := by
    rw [work_append steady]
    rfl
  refine ⟨now, _, _, follows.trans after, polling.held, observations, ?_, ?_, ?_⟩
  · intro observed completion returned
    exact (observed_of_scope accepted returned).trans observations
  · rw [polling.over_iff posting, Posted.Over, or_comm]
    have shown : ∀ completion,
        flight.settled = some completion ↔ .waited completion ∈ flight.observations :=
      fun _ => settled_work_eq_some_iff
    simp only [← shown]
    -- A completion that is kept is either unset or was read from what has been stored.
    constructor
    · rintro (stored | waited)
      · exact Or.inl stored
      · rcases Option.isSome_iff_exists.mp waited with ⟨completion, kept⟩
        cases set : completion.done with
        | true => exact Or.inl (polling.waited completion kept set)
        | false => exact Or.inr ⟨completion, kept, set⟩
    · rintro (stored | ⟨completion, kept, _⟩)
      · exact Or.inl stored
      · exact Or.inr (Option.isSome_iff_exists.mpr ⟨completion, kept⟩)
  · intro yes other seen
    exact polling.polled posting second ((polling.over_iff posting).mp yes) seen

end Facade

/-! ## A unit that stores late, and one that does not store -/

/-- A unit that stores one value in a word, after so many things have happened. -/
structure Delayed where
  word : UInt64
  value : UInt64
  left : Nat

namespace Delayed

def tick (delayed : Delayed) (memory : Memory) : Effect Delayed :=
  match delayed.left with
  | 0 => .quiet delayed memory
  | left + 1 =>
    .quiet { delayed with left } (if left = 0 then memory.store delayed.word delayed.value else memory)

instance : Accelerator Delayed where
  policy _ := .spin
  handle _ delayed memory := (0, delayed.tick memory)
  elapse _ delayed memory := delayed.tick memory

def Has (word value : UInt64) (posted : Option UInt64) (machine : Machine Delayed) : Prop :=
  machine.unit.word = word ∧ machine.unit.value = value ∧
    posted = (if machine.unit.left = 0 then some value else none) ∧
    machine.load word = posted.getD 0

theorem has_apply_tick {word value : UInt64} {posted : Option UInt64} {machine : Machine Delayed}
    (has : Has word value posted machine) :
    ∃ later, Follows posted later ∧
      Has word value later (machine.apply (machine.unit.tick machine.memory)) := by
  rcases machine with ⟨⟨_, _, left⟩, memory, notices, free⟩
  rcases has with ⟨rfl, rfl, rfl, load⟩
  cases left with
  | zero => exact ⟨_, .refl _, rfl, rfl, rfl, load⟩
  | succ left =>
      cases left with
      | zero => exact ⟨_, Or.inl rfl, rfl, rfl, rfl, Memory.load_store memory _ _⟩
      | succ left => exact ⟨_, .refl _, rfl, rfl, rfl, load⟩

theorem posting (channel : Channel) (word value : UInt64) : Posting channel word (Has word value) where
  load has := has.2.2.2
  ask has := by
    rcases has_apply_tick has with ⟨between, first, sent⟩
    rcases has_apply_tick sent with ⟨later, second, asked⟩
    exact ⟨later, first.trans second, asked⟩
  elapse _ has := has_apply_tick has
  notify _ has := has

end Delayed

namespace Facade

/-- The word is stored between two polls. -/
theorem poll_iff_posted_delayed :
    let facade : Facade := ⟨⟨.snappyStandalone, .snappyCompress, Build.standaloneSnappyCompress,
      rfl⟩, .powerOn, .bounded 2, 0x100⟩
    let task : Task .snappyCompress := .snappyCompress ⟨0x1000, 3⟩ ⟨0x2000, 64⟩
    let sent : Machine Delayed :=
      ⟨⟨0x100, 7, 2⟩, Memory.blank.store 0x100 0, [], Machine.firstAddress⟩
    facade.dispatch task (Machine.start ⟨0x100, 7, 6⟩) = (.ok (), sent) ∧ Delayed.Has 0x100 7 none sent ∧
      ∃ later, (facade.work none sent [.poll, .poll, .wait]).observations =
          [.polled false, .polled true] ++ later ∧
        ∀ other, .polled other ∈ later → other = true := by
  intro facade task sent
  have accepted : facade.dispatch task (Machine.start ⟨0x100, 7, 6⟩) = (.ok (), sent) := rfl
  have held : Delayed.Has 0x100 7 none sent :=
    ⟨rfl, rfl, rfl, Memory.load_store Memory.blank 0x100 0⟩
  have passive : ∀ step ∈ [.poll] ++ [(.wait : HostStep Delayed)], step.isPassive = true := by
    simp [HostStep.isPassive]
  have steady : ∀ step ∈ [(.poll : HostStep Delayed)], step.isAbort = false := by
    simp [HostStep.isAbort]
  rcases poll_iff_posted accepted (Delayed.posting facade.channel 0x100 7) held passive steady with
    ⟨now, answer, later, _, has, observed, _, truth, stays⟩
  have stored : now = some 7 := has.2.2.1
  have yes : answer = true := truth.mpr (Or.inl ⟨7, stored, by decide⟩)
  have early : (facade.work none sent [.poll]).observations = [.polled false] := by
    have clear : (facade.channel.completion facade.word (sent.elapse .hostWork)).done = false := by
      have load : (sent.elapse .hostWork).load 0x100 = 0 := held.2.2.2
      rw [Channel.completion, load]
      exact Completion.done_clear facade.channel.width
    simp only [work, clear, Option.isSome_none, Bool.or_false]
  rw [yes, early] at observed
  exact ⟨accepted, held, later, observed, stays yes⟩

/-- A wait that reads the word once returns what it has found, and from then on
every poll says yes, though the word is never stored to. -/
theorem poll_without_post :
    let facade : Facade := ⟨⟨.compressor, .snappyCompress, Build.compressorSnappyCompress, rfl⟩,
      .powerOn, .skip, 0x100⟩
    let task : Task .snappyCompress := .snappyCompress ⟨0x1000, 3⟩ ⟨0x2000, 64⟩
    let has := fun posted (machine : Machine Absent) => posted = none ∧ machine.load 0x100 = 0
    let sent : Machine Absent := ⟨⟨.skip⟩, Memory.blank.store 0x100 0, [], Machine.firstAddress⟩
    facade.dispatch task (Machine.start ⟨.skip⟩) = (.ok (), sent) ∧
      Posting facade.channel facade.word has ∧ has none sent ∧
      (facade.work none sent [.wait, .poll]).observations =
        [.waited ⟨0, .bits32⟩, .polled true] ∧
      has none (facade.work none sent [.wait, .poll]).machine := by
  intro facade task has sent
  have clear : has none sent := ⟨rfl, Memory.load_store Memory.blank 0x100 0⟩
  refine ⟨rfl, ?_, clear, ?_, clear⟩
  · constructor
    · rintro posted machine ⟨rfl, load⟩
      exact load
    · rintro posted machine held
      exact ⟨posted, .refl posted, held⟩
    · rintro posted machine pause held
      exact ⟨posted, .refl posted, held⟩
    · exact fun _ held => held
  · change [Observation.waited ⟨sent.load 0x100, .bits32⟩, .polled true] = _
    rw [clear.2]

end Facade

end RoccCodec
