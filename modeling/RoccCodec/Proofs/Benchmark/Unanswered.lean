import RoccCodec.Proofs.Benchmark.Completeness
import RoccCodec.Proofs.Polling

namespace RoccCodec

/-!
# Benchmarks without an accelerator

Where there is no accelerator, nobody sets a completion word.  A benchmark makes all
of its requests there, as on any other backend, and none of its outputs passes the
check: a compression seems to have produced nothing, and a decompression seems to
have failed.  `Benchmark.never_verifies` has this for every benchmark that can be run.

How often a request reads its word is a matter of the policy alone.  The policy of the
absent accelerator has it read once.  A benchmark that brings a budget of its own
replaces this policy, and then every request reads on for 2^64 times when the budget
is spent.
-/

/-! ## Accelerators that only listen -/

/-- What an accelerator hears of the host has no effect on the host.  `heard` says what
it has heard. -/
structure Accelerator.Listens {υ : Type} [Accelerator υ] (heard : List Contact → υ → Prop) :
    Prop where
  handle : ∀ {log : List Contact} {unit : υ}, heard log unit → ∀ command memory,
    ∃ next, heard (log ++ [.command command]) next ∧
      (Accelerator.handle command unit memory).2 = .quiet next memory
  elapse : ∀ {log : List Contact} {unit : υ}, heard log unit → ∀ pause memory,
    ∃ next, heard (log ++ [.pause pause]) next ∧
      Accelerator.elapse pause unit memory = .quiet next memory

theorem Absent.listens : Accelerator.Listens fun _ (_ : Absent) => True where
  handle _ _ _ := ⟨_, trivial, rfl⟩
  elapse _ _ _ := ⟨_, trivial, rfl⟩

theorem Absent.listens_watched :
    Accelerator.Listens fun log (watched : Watched Absent) => watched.contacts = log where
  handle := by
    rintro log watched rfl command memory
    exact ⟨⟨watched.inner, _⟩, rfl, rfl⟩
  elapse := by
    rintro log watched rfl pause memory
    exact ⟨⟨watched.inner, _⟩, rfl, rfl⟩

/-- The host is about to read a completion word: it has asked for it, or reads again. -/
def Contact.precedesRead : Contact → Bool
  | .command sent => sent.xd
  | .pause .retry | .pause .report => true
  | .pause .command | .pause .hostWork => false

namespace Machine

variable {υ : Type} [Accelerator υ] {heard : List Contact → υ → Prop} {log : List Contact}
  {memory : Memory} {machine first last : Machine υ}

/-- What the accelerator of a machine has heard, and what is in memory. -/
structure Heard (heard : List Contact → υ → Prop) (log : List Contact) (memory : Memory)
    (machine : Machine υ) : Prop where
  unit : heard log machine.unit
  memory : machine.memory = memory

theorem Heard.elapse (listens : Accelerator.Listens heard) (hears : Heard heard log memory machine)
    (pause : Pause) : Heard heard (log ++ [.pause pause]) memory (machine.elapse pause) := by
  rcases hears with ⟨unit, rfl⟩
  rcases listens.elapse unit pause machine.memory with ⟨next, more, quiet⟩
  unfold Machine.elapse
  rw [quiet]
  exact ⟨more, rfl⟩

theorem Heard.issue (listens : Accelerator.Listens heard) (hears : Heard heard log memory machine)
    (command : Command) :
    Heard heard (log ++ [.command command, .pause .command]) memory (machine.issue command).2 := by
  rcases hears with ⟨unit, rfl⟩
  rcases listens.handle unit command machine.memory with ⟨next, more, quiet⟩
  have taken : Heard heard (log ++ [.command command]) machine.memory
      (machine.apply (Accelerator.handle command machine.unit machine.memory).2) := by
    rw [quiet]
    exact ⟨more, rfl⟩
  have paused := taken.elapse listens .command
  rw [List.append_assoc] at paused
  exact paused

/-- Commands that ask for nothing are followed by no read. -/
theorem Heard.issueAll (listens : Accelerator.Listens heard)
    (hears : Heard heard log memory machine) {commands : List Command}
    (plain : ∀ command ∈ commands, command.xd = false) :
    ∃ more, Heard heard (log ++ more) memory (machine.issueAll commands) ∧
      more.filter Contact.precedesRead = [] := by
  induction commands generalizing machine log with
  | nil => exact ⟨[], by rwa [List.append_nil], rfl⟩
  | cons command rest hypothesis =>
      rcases hypothesis (hears.issue listens command)
        (fun later member => plain later (List.mem_cons_of_mem _ member)) with
        ⟨more, final, none⟩
      refine ⟨[.command command, .pause .command] ++ more, by rwa [← List.append_assoc], ?_⟩
      rw [List.filter_append, none]
      simp [Contact.precedesRead, plain command List.mem_cons_self]

theorem Heard.told (listens : Accelerator.Listens heard) (hears : Heard heard log memory first)
    {build : Build} (told : first.Told build last) :
    ∃ more, Heard heard (log ++ more) memory last ∧ more.filter Contact.precedesRead = [] := by
  induction told with
  | refl => exact ⟨[], by rwa [List.append_nil], rfl⟩
  | notify told notice hypothesis =>
      rcases hypothesis with ⟨more, final, none⟩
      exact ⟨more, ⟨final.unit, final.memory⟩, none⟩
  | @issue last told channel same command tells hypothesis =>
      rcases hypothesis with ⟨more, final, none⟩
      refine ⟨more ++ [.command command, .pause .command], ?_, ?_⟩
      · rw [← List.append_assoc]
        exact final.issue listens command
      · rw [List.filter_append, none]
        simp [Contact.precedesRead, tells.xd_eq_false]

/-- The reads that the accelerator has heard of, whatever else it has heard. -/
def Asked (heard : List Contact → υ → Prop) (reads : List Contact) (machine : Machine υ) : Prop :=
  ∃ log, heard log machine.unit ∧ log.filter Contact.precedesRead = reads

/-- A unit that only listens is not asked for anything when it is told how to work. -/
theorem stays_asked (listens : Accelerator.Listens heard) (reads : List Contact) (build : Build) :
    Stays build (Asked heard reads) where
  of_unit := by
    rintro first last ⟨log, hears, same⟩ unit
    exact ⟨log, unit ▸ hears, same⟩
  told := by
    rintro first last ⟨log, hears, same⟩ told
    rcases Heard.told listens ⟨hears, rfl⟩ told with ⟨more, final, none⟩
    exact ⟨⟨log ++ more, final.unit, by rw [List.filter_append, none, List.append_nil, same]⟩,
      final.memory⟩

end Machine

/-! ## Waits in vain -/

namespace Channel

variable {υ : Type} [Accelerator υ] {heard : List Contact → υ → Prop} {log : List Contact}
  {memory : Memory} {machine : Machine υ} {channel : Channel} {policy : PollPolicy} {word : UInt64}

/-- What comes before each of the reads of a wait in vain. -/
def attempts (channel : Channel) (policy : PollPolicy) : List Contact :=
  .command channel.check :: (List.range (patience policy)).map fun step =>
    .pause (policy.pause step)

theorem length_attempts (channel : Channel) (policy : PollPolicy) :
    (channel.attempts policy).length = patience policy + 1 := by
  simp [attempts]

theorem heard_atRead (listens : Accelerator.Listens heard)
    (hears : machine.Heard heard log memory) (number : Nat) :
    (channel.atRead policy machine number).Heard heard
      (log ++ [.command channel.check, .pause .command] ++
        (List.range number).map fun step => .pause (policy.pause step)) memory := by
  induction number with
  | zero =>
      rw [List.range_zero, List.map_nil, List.append_nil]
      exact hears.issue listens channel.check
  | succ number hypothesis =>
      rw [List.range_succ, List.map_append, ← List.append_assoc, atRead, Machine.proceed]
      split
      · rename_i reported
        have noted : ((channel.atRead policy machine number).notify .requestStalled).Heard heard
            (log ++ [.command channel.check, .pause .command] ++
              (List.range number).map fun step => .pause (policy.pause step)) memory :=
          ⟨hypothesis.unit, hypothesis.memory⟩
        rw [List.map_singleton, reported]
        exact noted.elapse listens .report
      · exact hypothesis.elapse listens _

/-- A wait for a word that nobody sets ends with the word clear, after all of its reads. -/
theorem settle_unanswered (listens : Accelerator.Listens heard)
    (hears : machine.Heard heard log memory) (clear : memory.load word = 0) :
    ∃ after more, channel.settle policy word machine = (⟨0, channel.width⟩, after) ∧
      after.Heard heard (log ++ more) memory ∧
      more.filter Contact.precedesRead = channel.attempts policy := by
  have seen : ∀ number, channel.seen policy word machine number = ⟨0, channel.width⟩ := by
    intro number
    unfold Channel.seen completion Machine.load
    rw [(heard_atRead listens hears number).memory, clear]
  have settled := @settle_of_unset υ _ channel policy word machine fun number => by
    rw [seen]
    exact Completion.done_clear _
  rw [seen] at settled
  have final := @heard_atRead υ _ heard log memory machine channel policy listens hears
    (patience policy)
  rw [List.append_assoc] at final
  refine ⟨_, _, settled, final, ?_⟩
  have pauses : (List.range (patience policy)).filter (Contact.precedesRead ∘ fun step =>
      .pause (policy.pause step)) = List.range (patience policy) := by
    refine List.filter_eq_self.mpr fun step _ => ?_
    rcases policy.pause_retry_or_report step with again | reported
    · simp [again, Contact.precedesRead]
    · simp [reported, Contact.precedesRead]
  rw [List.filter_append, List.filter_map, pauses]
  rfl

theorem xd_scratch {slot : ScratchSlot} {buffer : Buffer} {command : Command}
    (sent : channel.scratch slot buffer = .ok command) : command.xd = false := by
  rcases bind_eq_ok_iff.mp sent with ⟨funct, _, made⟩
  cases made
  cases slot <;> rfl

theorem xd_level {level : Int32} {command : Command} (sent : channel.level level = .ok command) :
    command.xd = false := by
  rcases bind_eq_ok_iff.mp sent with ⟨funct, _, made⟩
  cases made
  rfl

theorem xd_auxiliaryCommands {auxiliary : Auxiliary} {command : Command}
    (sent : .ok command ∈ channel.auxiliaryCommands auxiliary) : command.xd = false := by
  cases auxiliary with
  | none => cases sent
  | streams literals sequences =>
      simp only [auxiliaryCommands, List.mem_cons, List.not_mem_nil, or_false] at sent
      rcases sent with first | second
      · exact xd_scratch first.symm
      · exact xd_scratch second.symm
  | workspace address => exact xd_scratch (List.mem_singleton.mp sent).symm

/-- No command of a request asks for anything. -/
theorem xd_of_mem_commands {request : Request} {sequence : List Command}
    (made : channel.commands request word = .ok sequence) :
    ∀ command ∈ sequence, command.xd = false := by
  intro command member
  have sent : .ok command ∈ channel.parts request word := by
    rw [commands_eq_ok_iff.mp made]
    exact List.mem_map_of_mem member
  simp only [parts, List.mem_append, List.mem_singleton] at sent
  rcases sent with (((choice | source) | buffer) | destination) | level
  · split at choice
    · exact (Tells.push (List.mem_singleton.mp choice).symm).xd_eq_false
    · cases choice
  · cases source
    rfl
  · exact xd_auxiliaryCommands buffer
  · cases destination
    rfl
  · cases leveled : request.level with
    | none =>
        rw [leveled] at level
        cases level
    | some number =>
        rw [leveled] at level
        exact xd_level (List.mem_singleton.mp level).symm

end Channel

/-! ## Requests in vain -/

/-- The decoders of this library refuse an empty input. -/
theorem Codecs.decompress?_software_nil (algorithm : Algorithm) :
    software.decompress? algorithm [] = none := by
  cases algorithm <;> rfl

namespace Benchmark

variable {codecs : Codecs} {benchmark : Benchmark} {corpus : Corpus} {layout : Layout}
  {items : List Item} {item : Item} {word : UInt64}

/-- A word that is not set does not pass for an output. -/
theorem judge_of_clear (rejects : ∀ algorithm, codecs.decompress? algorithm [] = none)
    (width : SignalWidth) (window : Buffer) {υ : Type} (machine : Machine υ) :
    (benchmark.judge codecs item window ⟨0, width⟩ machine).2 = false := by
  have produced : (Completion.mk 0 width).produced = 0 := by
    cases width <;> rfl
  have failed : (Completion.mk 0 width).success = false := Completion.done_clear width
  have empty : machine.read window.address 0 = [] := List.length_eq_zero_iff.mp
    (Memory.length_read _ _ _)
  unfold judge
  split
  · simp [produced, empty, Codecs.verifies, rejects]
  · simp [failed]

section Listening

variable {υ : Type} [Accelerator υ] {heard : List Contact → υ → Prop} {reads : List Contact}

/-- A request is accepted and waited for, and its output is not right. -/
theorem exists_unserved (listens : Accelerator.Listens heard) (faithful : codecs.Faithful)
    (rejects : ∀ algorithm, codecs.decompress? algorithm [] = none)
    (feasible : benchmark.Feasible codecs corpus)
    (arranged : benchmark.Arranged corpus word layout items) {stage : Stage υ}
    (ready : benchmark.Ready codecs word items stage.facade stage.machine)
    (asked : stage.machine.Asked heard reads) (member : item ∈ items)
    (inside : stage.cursor.rest.offset + stage.cursor.remaining = layout.region.length.toNat)
    (roomy : Region.padded item.room ≤ stage.cursor.remaining) :
    ∃ after record, benchmark.move codecs layout stage (.request item) =
        .ok ({ stage with
          machine := after
          cursor := stage.cursor.advance (Region.padded item.room) }, some record) ∧
      benchmark.Ready codecs word items stage.facade after ∧
      after.Asked heard (reads ++ stage.facade.channel.attempts stage.facade.policy) ∧
      entry record = (item.sample.name, stage.point, false) ∧
      record.elapsed = benchmark.holdUp := by
  rcases arranged.exists_window inside roomy with ⟨place, carved, room, within⟩
  have placed := ready.placed faithful feasible arranged member room within
  generalize task_eq : layout.task item.source (layout.window place) benchmark.grid.level
    stage.facade.channel.pipeline = task at placed
  -- The request is sent: nothing in it depends on the accelerator.
  have check := @Task.check_message _ task stage.facade.channel rfl
    (Task.source_apart_destination placed.apart)
  rcases Channel.exists_commands check stage.facade.word with ⟨sequence, made⟩
  have accepted := Facade.dispatch_eq_ok_iff.mpr
    ⟨placed.requested, Channel.dispatch_eq_ok_iff.mpr ⟨check, sequence, made, rfl⟩⟩
  -- The wait finds the word as the driver has left it.
  rcases asked with ⟨log, hears, same⟩
  have cleared : (stage.machine.store stage.facade.word 0).Heard heard log
      (stage.machine.memory.store stage.facade.word 0) := ⟨hears, rfl⟩
  rcases cleared.issueAll listens (Channel.xd_of_mem_commands made) with ⟨sent, sends, none⟩
  rcases @Channel.settle_unanswered υ _ heard _ _ _ stage.facade.channel stage.facade.policy
    stage.facade.word listens sends (Memory.load_store _ _ _) with
    ⟨after, more, settled, final, attempts⟩
  have ran := Facade.run_of_ok accepted
  unfold Facade.settle at ran
  rw [settled, ← task_eq] at ran
  have judged : benchmark.judge codecs item (layout.window place)
      ⟨0, stage.facade.channel.width⟩ after = (_, false) :=
    Prod.ext rfl (judge_of_clear rejects _ _ _)
  refine ⟨_, _, move_request_eq carved ran judged, ?_, ?_, rfl, ready.delay⟩
  · refine ready.of_agree ?_
    change Memory.Agree _ after.memory _
    rw [final.memory]
    exact Memory.agree_store _ (fun address held =>
      Task.not_covers_word (placed.foreign address held)) 0
  · refine ⟨_, final.unit, ?_⟩
    rw [List.filter_append, List.filter_append, same, none, List.append_nil, attempts]

/-- Every request waits in vain, and the next one is made all the same. -/
theorem unanswered_course (listens : Accelerator.Listens heard) (faithful : codecs.Faithful)
    (rejects : ∀ algorithm, codecs.decompress? algorithm [] = none)
    (feasible : benchmark.Feasible codecs corpus)
    (arranged : benchmark.Arranged corpus word layout items) (channel : Channel)
    (policy : PollPolicy) :
    Course codecs benchmark layout items false fun made facade (machine : Machine υ) =>
      benchmark.Ready codecs word items facade machine ∧ facade.channel = channel ∧
        facade.policy = policy ∧
        machine.Asked heard (List.replicate made (channel.attempts policy)).flatten where
  request := by
    rintro made stage item ⟨ready, rfl, rfl, asked⟩ member inside roomy
    rcases exists_unserved listens faithful rejects feasible arranged ready asked member inside
      roomy with ⟨after, record, moved, next, more, said, time⟩
    refine ⟨after, record, moved, ⟨next, rfl, rfl, ?_⟩, said, time⟩
    rw [List.replicate_succ', List.flatten_append, List.flatten_singleton]
    exact more
  tune := by
    rintro made stage point ⟨ready, rfl, rfl, asked⟩ listed number
    rcases exists_readied arranged (Machine.stays_asked listens _ _) ready asked listed number with
      ⟨tuning, after, tuned, next, same⟩
    exact ⟨_, after, tuned, next, rfl, rfl, same⟩

/-- A benchmark on an accelerator that only listens makes all of its requests. -/
theorem exists_unanswered (listens : Accelerator.Listens heard) (faithful : codecs.Faithful)
    (rejects : ∀ algorithm, codecs.decompress? algorithm [] = none)
    (feasible : benchmark.Feasible codecs corpus) {unit : υ} (fresh : heard [] unit) :
    ∃ layout items stage last records,
      benchmark.prepare codecs corpus unit = .ok (layout, items, stage) ∧
      Walks codecs benchmark layout stage (benchmark.moves items) records last ∧
      records.map entry = outcomes false benchmark corpus ∧
      (∀ record ∈ records, record.elapsed = benchmark.holdUp) ∧
      last.machine.Asked heard (List.replicate records.length (stage.facade.channel.attempts
        (benchmark.options.policy.getD (Accelerator.policy unit)))).flatten := by
  have start : (Machine.start unit).Asked heard [] := ⟨[], fresh, rfl⟩
  rcases exists_ready faithful feasible (Machine.stays_asked listens [] _) start with
    ⟨layout, items, stage, prepared, arranged, ready, policy, asked⟩
  rcases (unanswered_course listens faithful rejects feasible arranged stage.facade.channel
    stage.facade.policy).exists_walks arranged ⟨ready, rfl, rfl, asked⟩ with
    ⟨last, records, walks, ⟨_, _, _, all⟩, said, times⟩
  rw [← policy]
  exact ⟨layout, items, stage, last, records, prepared, walks, said, times, all⟩

end Listening

/-! ## Runs in vain -/

/-- The totals of a benchmark in which every request there is was made and none was
verified. -/
structure Fruitless (benchmark : Benchmark) (corpus : Corpus) (totals : Totals) : Prop where
  label : totals.label = benchmark.label
  records : totals.records.map entry = outcomes false benchmark corpus
  failures : totals.failures = totals.count

theorem failures_eq_count {totals : Totals}
    (said : totals.records.map entry = outcomes false benchmark corpus) :
    totals.failures = totals.count := by
  refine List.countP_eq_length.mpr fun record member => ?_
  have among := List.mem_map_of_mem (f := entry) member
  rw [said] at among
  simp only [outcomes, List.mem_flatMap, List.mem_map] at among
  rcases among with ⟨point, _, sample, _, same⟩
  have unverified : false = record.verified := congrArg (fun said => said.2.2) same
  simp [← unverified]

/-- A run without an accelerator comes to its end, and verifies nothing. -/
theorem run_unanswered {outfit : Outfit} (faithful : outfit.codecs.Faithful)
    (rejects : ∀ algorithm, outfit.codecs.decompress? algorithm [] = none)
    (absent : benchmark.options.backend = .absent)
    (feasible : benchmark.Feasible outfit.codecs corpus) (readings : Nat → Nat) (number : Nat) :
    Ends (Timely readings benchmark corpus) (fun result => benchmark.Fruitless corpus result.1)
      (clocked (benchmark.run outfit (clock readings) corpus) number).1 := by
  rcases @exists_unanswered _ benchmark corpus Absent _ _ Absent.listens faithful rejects feasible
    ⟨.skip⟩ trivial with ⟨layout, items, stage, last, records, prepared, walks, said, times, _⟩
  have target : benchmark.options.backend.target outfit benchmark.options.build =
      .ok (.absent ⟨.skip⟩) := by
    rw [absent]
    rfl
  unfold run
  dsimp only
  rw [target, clocked_bind (clocked_lift _ _)]
  have all : records.length = (benchmark.entries corpus).length := by
    rw [← length_outcomes false, ← said, List.length_map]
  refine (walks.ends prepared all times readings number).imp fun result ⟨label, same⟩ => ?_
  have told := same.trans said
  exact ⟨label, told, failures_eq_count told⟩

/-- The same moves, with a record of what the host has done. -/
theorem exists_watched (faithful : codecs.Faithful)
    (rejects : ∀ algorithm, codecs.decompress? algorithm [] = none)
    (feasible : benchmark.Feasible codecs corpus) (readings : Nat → Nat) (number : Nat) :
    ∃ layout items stage last records,
      benchmark.prepare codecs corpus (Watched.mk (Absent.mk .skip) []) =
        .ok (layout, items, stage) ∧
      (clocked (benchmark.timed codecs (clock readings) layout stage (benchmark.moves items))
        number).1 = .ok (last, records) ∧
      records.map entry = outcomes false benchmark corpus ∧
      last.machine.unit.contacts.filter Contact.precedesRead =
        (List.replicate records.length (stage.facade.channel.attempts
          (benchmark.options.policy.getD .skip))).flatten := by
  rcases @exists_unanswered _ benchmark corpus (Watched Absent) _ _ Absent.listens_watched faithful
    rejects feasible ⟨⟨.skip⟩, []⟩ rfl with
    ⟨layout, items, stage, last, records, prepared, walks, said, _, ⟨log, rfl, reads⟩⟩
  rcases walks.timed readings number with ⟨measured, later, timed, same, _⟩
  refine ⟨layout, items, stage, last, measured, prepared, congrArg Prod.fst timed, same.trans said,
    ?_⟩
  have all := congrArg List.length same
  rw [List.length_map, List.length_map] at all
  rw [all]
  exact reads

/-- Runs without an accelerator verify nothing.  A benchmark that can be run is refused
nothing: it makes a request for every point of its grid and, within a point, for every
sample, and no output passes the check, not even that of an empty sample.  The codecs of the
host have to be faithful and to refuse an empty input.

One request after the other asks for its word and reads it.  If the benchmark leaves the
policy to the absent accelerator, each reads it once.  A policy of its own takes its place,
and a word that nobody sets is then read for as long as the policy has patience. -/
theorem never_verifies {outfit : Outfit} (faithful : outfit.codecs.Faithful)
    (rejects : ∀ algorithm, outfit.codecs.decompress? algorithm [] = none)
    (absent : benchmark.options.backend = .absent)
    (feasible : benchmark.Feasible outfit.codecs corpus) (readings : Nat → Nat) (number : Nat) :
    Ends (Timely readings benchmark corpus) (fun result => benchmark.Fruitless corpus result.1)
      (clocked (benchmark.run outfit (clock readings) corpus) number).1 ∧
    ∃ layout items stage last records,
      benchmark.prepare outfit.codecs corpus (Watched.mk (Absent.mk .skip) []) =
        .ok (layout, items, stage) ∧
      (clocked (benchmark.timed outfit.codecs (clock readings) layout stage
        (benchmark.moves items)) number).1 = .ok (last, records) ∧
      records.map entry = outcomes false benchmark corpus ∧
      last.machine.unit.contacts.filter Contact.precedesRead =
        (List.replicate records.length (stage.facade.channel.attempts
          (benchmark.options.policy.getD .skip))).flatten ∧
      (benchmark.options.policy = none →
        last.machine.unit.contacts.filter Contact.precedesRead =
          List.replicate records.length (.command stage.facade.channel.check)) := by
  refine ⟨run_unanswered faithful rejects absent feasible readings number, ?_⟩
  rcases @exists_watched _ _ corpus faithful rejects feasible readings number with
    ⟨layout, items, stage, last, records, prepared, timed, said, reads⟩
  refine ⟨layout, items, stage, last, records, prepared, timed, said, reads, ?_⟩
  intro default
  rw [reads, default]
  exact List.flatten_replicate_singleton

/-- A word and an empty sample, both compressed with Zstd and a slow memory. -/
theorem never_verifies_word_and_empty :
    let benchmark : Benchmark :=
      ⟨.zstdCompress, ⟨.compressor, .absent, some ⟨2, true⟩, none⟩, ⟨[4096, 4096], [9, 10], 3⟩⟩
    let corpus : Corpus := ⟨[⟨"word", [1, 2, 3]⟩, ⟨"empty", []⟩]⟩
    ∃ result, (clocked (benchmark.run .standard (clock fun number => min number 1000) corpus) 0).1 =
        .ok result ∧ result.1.count = 8 ∧ result.1.failures = 8 := by
  intro benchmark corpus
  have steady : Monotone fun number : Nat => min number 1000 := by
    intro first second below
    dsimp only
    omega
  have timely : Timely (fun number => min number 1000) benchmark corpus := by
    refine ⟨steady, fun number => ?_⟩
    change min number 1000 + 8 * 0 < Length.limit
    unfold Length.limit
    omega
  rcases @never_verifies benchmark corpus .standard Codecs.software_faithful
    Codecs.decompress?_software_nil rfl (by decide +kernel) (fun number => min number 1000) 0 with
    ⟨ends, _⟩
  rcases ends.of_timely timely with ⟨result, ran, _, said, failures⟩
  have all := congrArg List.length said
  rw [List.length_map] at all
  exact ⟨result, ran, all, failures.trans all⟩

/-- A budget that is spent at once: the only request reads its word for 2^64 times more. -/
theorem reads_on_behind_budget :
    let benchmark : Benchmark :=
      ⟨.snappyCompress, ⟨.snappyStandalone, .absent, none, some (.bounded 0)⟩, ⟨[65536], [14], 16⟩⟩
    let corpus : Corpus := ⟨[⟨"text", [97, 98, 99]⟩]⟩
    ∃ layout items stage last records,
      benchmark.prepare .software corpus (Watched.mk (Absent.mk .skip) []) =
        .ok (layout, items, stage) ∧
      (clocked (benchmark.timed .software (clock id) layout stage (benchmark.moves items)) 0).1 =
        .ok (last, records) ∧
      records.length = 1 ∧
      (last.machine.unit.contacts.filter Contact.precedesRead).length = 2 ^ 64 + 1 := by
  intro benchmark corpus
  rcases @exists_watched _ benchmark corpus Codecs.software_faithful
    Codecs.decompress?_software_nil (by decide +kernel) id 0 with
    ⟨layout, items, stage, last, records, prepared, timed, said, reads⟩
  have all := congrArg List.length said
  rw [List.length_map] at all
  have single : records.length = 1 := all
  refine ⟨layout, items, stage, last, records, prepared, timed, single, ?_⟩
  rw [reads, single, List.replicate_one, List.flatten_singleton, Channel.length_attempts]
  rfl

end Benchmark

end RoccCodec
