import Mathlib.Algebra.Ring.Nat
import Mathlib.Data.List.Nodup
import RoccCodec.Proofs.Codec.Faithful
import RoccCodec.Proofs.Device.Dispatch

namespace RoccCodec

/-!
# The accounts of a device

A journal records what a device has done, in the order in which it happened:
the commands it handled, and the steps of its worker, which runs a job, counts
it and stores its completion word.  Jobs are known by their numbers, in the
order of their starts.  `Device.Records` is every way a device can come to
write its journal: between any two events any other may happen that is
possible at all, and memory may have changed in any way.  Runs of a simulated
device are among them, in either mode (`Simulated.Run.exists_records`).

`Device.Records.accounts` is what a host can rely on when it compares a
completion word with the counts of a device.
-/

/-- What a device did. -/
inductive Event where
  | handled (command : Command) (outcome : Outcome)
  | ran (number : Nat) (job : Job) (value : Option UInt64)
  | counted (number : Nat) (completed : Bool)
  | stored (number : Nat) (job : Job) (value : UInt64)
  deriving DecidableEq, Repr

namespace Event

@[simp] def handled? : Event → Option (Command × Outcome)
  | .handled command outcome => some (command, outcome)
  | .ran .. | .counted .. | .stored .. => none

@[simp] def ran? : Event → Option Job
  | .ran _ job _ => some job
  | .handled .. | .counted .. | .stored .. => none

@[simp] def counted? : Event → Option (Nat × Bool)
  | .counted number completed => some (number, completed)
  | .handled .. | .ran .. | .stored .. => none

@[simp] def stored? : Event → Option (Nat × Job × UInt64)
  | .stored number job value => some (number, job, value)
  | .handled .. | .ran .. | .counted .. => none

/-- What the event does to memory. -/
def onMemory (codecs : Codecs) (memory : Memory) : Event → Memory
  | .ran _ job _ => (job.run codecs memory).memory
  | .stored _ job value => memory.store job.word value
  | .handled .. | .counted .. => memory

end Event

/-- The command starts a request of one of the pipelines. -/
def Build.isStart (build : Build) (command : Command) : Bool :=
  Pipeline.all.any fun pipeline => (build.start? pipeline command).isSome

/-- What a device did, the oldest first. -/
abbrev Journal : Type := List Event

namespace Journal

def handled (journal : Journal) : List (Command × Outcome) := journal.filterMap Event.handled?

def ran (journal : Journal) : List Job := journal.filterMap Event.ran?

/-- The numbers of the jobs that were counted, and whether as completed. -/
def counted (journal : Journal) : List (Nat × Bool) := journal.filterMap Event.counted?

/-- The values that were stored, with the numbers of their jobs. -/
def stored (journal : Journal) : List (Nat × Job × UInt64) := journal.filterMap Event.stored?

/-- How many commands started a request. -/
def starts (build : Build) (journal : Journal) : Nat :=
  journal.handled.countP fun entry => build.isStart entry.1

def started (journal : Journal) : List Job := journal.handled.flatMap fun entry => entry.2.jobs

/-- How many requests were stalled at their start. -/
def refused (journal : Journal) : Nat := (journal.handled.map fun entry => entry.2.stalls).sum

/-- The numbers of the jobs that were counted as completed, or as stalled. -/
def countedAs (completed : Bool) (journal : Journal) : List Nat :=
  (journal.counted.filter fun entry => entry.2 = completed).map Prod.fst

@[simp] theorem handled_append (first second : Journal) :
    handled (first ++ second) = first.handled ++ second.handled := List.filterMap_append

@[simp] theorem ran_append (first second : Journal) :
    ran (first ++ second) = first.ran ++ second.ran := List.filterMap_append

@[simp] theorem counted_append (first second : Journal) :
    counted (first ++ second) = first.counted ++ second.counted := List.filterMap_append

@[simp] theorem stored_append (first second : Journal) :
    stored (first ++ second) = first.stored ++ second.stored := List.filterMap_append

@[simp] theorem countedAs_append (completed : Bool) (first second : Journal) :
    countedAs completed (first ++ second) =
      first.countedAs completed ++ second.countedAs completed := by
  simp [countedAs]

@[simp] theorem countedAs_singleton (completed result : Bool) (number : Nat) :
    countedAs completed [.counted number result] = if result = completed then [number] else [] := by
  cases completed <;> cases result <;> rfl

@[simp] theorem handled_singleton (event : Event) : handled [event] = event.handled?.toList := by
  cases event <;> rfl

@[simp] theorem ran_singleton (event : Event) : ran [event] = event.ran?.toList := by
  cases event <;> rfl

@[simp] theorem counted_singleton (event : Event) : counted [event] = event.counted?.toList := by
  cases event <;> rfl

@[simp] theorem stored_singleton (event : Event) : stored [event] = event.stored?.toList := by
  cases event <;> rfl

theorem length_counted (journal : Journal) : journal.counted.length =
    (journal.countedAs true).length + (journal.countedAs false).length := by
  have parts := List.length_eq_length_filter_add (l := journal.counted) fun entry => entry.2
  simpa [countedAs] using parts

end Journal

namespace Device

/-- The next event if the worker makes a step.  It has a number for the job it
takes up and keeps it until it is done with the job. -/
def event? (codecs : Codecs) (device : Device) (memory : Memory) (journal : Journal) :
    Option Event :=
  match device.worker with
  | .counted job value => some (.stored (journal.ran.length - 1) job value)
  | .ran _ value => some (.counted (journal.ran.length - 1) value.isSome)
  | .idle => device.queue.head?.map fun job =>
      .ran journal.ran.length job (job.run codecs memory).unit

theorem memory_step (codecs : Codecs) (device : Device) (memory : Memory) (journal : Journal) :
    (device.step codecs memory).memory =
      (device.event? codecs memory journal).elim memory (Event.onMemory codecs memory) := by
  unfold step event?
  cases device.worker with
  | idle => cases device.queue <;> rfl
  | ran job value => cases value <;> rfl
  | counted job value => rfl

/-- The device was powered on, and has since done what the journal says. -/
inductive Records (codecs : Codecs) (build : Build) : Journal → Device → Prop
  | powerOn : Records codecs build [] (.powerOn build)
  | handle {journal : Journal} {device : Device} (records : Records codecs build journal device)
    (command : Command) :
    Records codecs build (journal ++ [.handled command (device.outcome command)])
      (device.accept command).1
  | step {journal : Journal} {device : Device} (records : Records codecs build journal device)
    (memory : Memory) :
    Records codecs build (journal ++ (device.event? codecs memory journal).toList)
      (device.step codecs memory).unit

/-- One if the worker has run a job and not counted it yet. -/
def uncounted (device : Device) : Nat :=
  match device.worker with
  | .ran .. => 1
  | .idle | .counted .. => 0

/-- What the journal of a device and its counts have to do with each other. -/
structure Accounts (device : Device) (build : Build) (journal : Journal) : Prop where
  starts : journal.starts build =
    device.completed + device.stalled + device.queue.length + device.uncounted
  completed : device.completed = (journal.countedAs true).length
  once : (journal.stored.map Prod.fst).Nodup
  stored {number : Nat} {job : Job} {value : UInt64} (stored : (number, job, value) ∈ journal.stored) :
    journal.started[number]? = some job ∧ value ≠ 0 ∧ (number, true) ∈ journal.counted ∧
      (number, false) ∉ journal.counted

/-- How far the worker has come with the job that was run last. -/
inductive Position (journal : Journal) : Worker → Prop
  | idle (counted : journal.counted.length = journal.ran.length)
    (stored : journal.countedAs true = journal.stored.map Prod.fst) : Position journal .idle
  | ran {before : List Job} {job : Job} {value : Option UInt64}
    (last : journal.ran = before ++ [job]) (counted : journal.counted.length = before.length)
    (stored : journal.countedAs true = journal.stored.map Prod.fst) (nonzero : value ≠ some 0) :
    Position journal (.ran job value)
  | counted {before : List Job} {job : Job} {value : UInt64} (last : journal.ran = before ++ [job])
    (counted : journal.counted.length = before.length + 1)
    (stored : journal.countedAs true = journal.stored.map Prod.fst ++ [before.length])
    (nonzero : value ≠ 0) : Position journal (.counted job value)

theorem Position.congr {journal other : Journal} {worker : Worker}
    (position : Position journal worker) (ran : other.ran = journal.ran)
    (counted : other.counted = journal.counted) (stored : other.stored = journal.stored) :
    Position other worker := by
  have succeeded : other.countedAs true = journal.countedAs true := by
    rw [Journal.countedAs, counted, Journal.countedAs]
  cases position with
  | idle all values => exact .idle (by rw [counted, ran, all]) (by rw [succeeded, stored, values])
  | ran last all values nonzero =>
      exact .ran (by rw [ran, last]) (by rw [counted, all]) (by rw [succeeded, stored, values])
        nonzero
  | counted last all values nonzero =>
      exact .counted (by rw [ran, last]) (by rw [counted, all])
        (by rw [succeeded, stored, values]) nonzero

/-- What every event preserves. -/
structure Books (build : Build) (journal : Journal) (device : Device) : Prop where
  build_eq : device.build = build
  starts : journal.starts build = journal.started.length + journal.refused
  order : journal.started = journal.ran ++ device.queue
  numbers : journal.counted.map Prod.fst = List.range journal.counted.length
  completed : device.completed = (journal.countedAs true).length
  stalled : device.stalled = journal.refused + (journal.countedAs false).length
  stored : ∀ entry ∈ journal.stored, journal.ran[entry.1]? = some entry.2.1 ∧ entry.2.2 ≠ 0
  position : Position journal device.worker

end Device

/-- A start leads to a job or is refused, and nothing else does. -/
theorem Device.isStart_eq (device : Device) (command : Command) :
    (if device.build.isStart command then 1 else 0) =
      (device.outcome command).jobs.length + (device.outcome command).stalls := by
  cases starts : device.build.isStart command with
  | false =>
      have idle : ∀ pipeline, device.build.start? pipeline command = none := by
        simpa [Build.isStart, Pipeline.mem_all] using starts
      rw [outcome_of_start? idle]
      rfl
  | true =>
      have found : ∃ pipeline, (device.build.start? pipeline command).isSome := by
        simpa [Build.isStart, Pipeline.mem_all] using starts
      rcases found with ⟨pipeline, found⟩
      rcases Option.isSome_iff_exists.mp found with ⟨arrival, start⟩
      rcases Build.start?_eq_some_iff.mp start with ⟨table, present, _, own, trigger⟩
      rw [outcome_of_trigger present own trigger]
      unfold startOutcome
      cases (device.stage pipeline arrival.kind arrival.rs1 arrival.rs2).ready? table pipeline
        table.opcode <;> rfl

namespace Device.Books

variable {codecs : Codecs} {build : Build} {journal : Journal} {device : Device}

theorem powerOn : Books build [] (.powerOn build) :=
  ⟨rfl, rfl, rfl, rfl, rfl, rfl, by simp [Journal.stored], .idle rfl rfl⟩

theorem handle (books : Books build journal device) (command : Command) :
    Books build (journal ++ [.handled command (device.outcome command)])
      (device.accept command).1 := by
  rcases device.accept_outcome command with ⟨queue, stalls⟩
  have start := device.isStart_eq command
  rw [books.build_eq] at start
  have outcome : Journal.handled (journal ++ [.handled command (device.outcome command)]) =
      journal.handled ++ [(command, device.outcome command)] := by simp
  have counted : Journal.countedAs true [.handled command (device.outcome command)] = [] := rfl
  have failed : Journal.countedAs false [.handled command (device.outcome command)] = [] := rfl
  constructor
  · rw [build_accept, books.build_eq]
  · have before := books.starts
    simp only [Journal.starts, Journal.started, Journal.refused, outcome, List.countP_append,
      List.countP_singleton, List.flatMap_append, List.flatMap_singleton, List.length_append,
      List.map_append, List.map_singleton, List.sum_append, List.sum_singleton] at before ⊢
    omega
  · have before := books.order
    simp only [Journal.started, outcome, List.flatMap_append, List.flatMap_singleton] at before ⊢
    rw [before, queue]
    simp
  · simpa using books.numbers
  · simpa [counted] using books.completed
  · have before := books.stalled
    simp only [Journal.refused, outcome, List.map_append, List.map_singleton, List.sum_append,
      List.sum_singleton, Journal.countedAs_append, failed, List.append_nil] at before ⊢
    omega
  · simpa using books.stored
  · rw [worker_accept]
    exact books.position.congr (by simp) (by simp) (by simp)

/-- The first job that waits is run. -/
theorem run (books : Books build journal device) {job : Job} {rest : List Job}
    (idle : device.worker = .idle) (waiting : device.queue = job :: rest) {value : Option UInt64}
    (nonzero : value ≠ some 0) :
    Books build (journal ++ [.ran journal.ran.length job value])
      { device with queue := rest, worker := .ran job value } := by
  have position := books.position
  have order := books.order
  rw [idle] at position
  rw [waiting] at order
  cases position with
  | idle counted stored =>
      constructor
      · exact books.build_eq
      · simpa [Journal.starts, Journal.started, Journal.refused] using books.starts
      · simpa [Journal.started] using order
      · simpa using books.numbers
      · simpa [Journal.countedAs] using books.completed
      · simpa [Journal.countedAs, Journal.refused] using books.stalled
      · intro entry member
        have known := books.stored entry (by simpa using member)
        rw [Journal.ran_append, List.getElem?_append_left (List.getElem?_eq_some_iff.mp known.1).1]
        exact known
      · have last : Journal.ran (journal ++ [.ran journal.ran.length job value]) =
            journal.ran ++ [job] := by simp
        refine .ran last (by simpa using counted) ?_ nonzero
        simpa [Journal.countedAs] using stored

/-- The job that was run is counted.  If it has failed, the worker is done with it. -/
theorem count (books : Books build journal device) {job : Job} {value : Option UInt64}
    (working : device.worker = .ran job value) :
    Books build (journal ++ [.counted (journal.ran.length - 1) value.isSome])
      { device.count value.isSome with
        worker := value.elim .idle (Worker.counted job) } := by
  have position := books.position
  rw [working] at position
  cases position with
  | @ran before job value last counted stored nonzero =>
      have number : journal.ran.length - 1 = before.length := by simp [last]
      rw [number]
      have numbers : List.range (journal.counted.length + 1) =
          List.range journal.counted.length ++ [before.length] := by
        rw [List.range_succ, counted]
      cases value with
      | none =>
          constructor
          · exact books.build_eq
          · simpa [Journal.starts, Journal.started, Journal.refused] using books.starts
          · simpa [Journal.started, Device.count] using books.order
          · simpa [numbers] using books.numbers
          · simpa [Device.count] using books.completed
          · have failed := books.stalled
            simp only [Journal.refused] at failed
            simp [Device.count, Journal.refused, failed, Nat.add_assoc]
          · simpa using books.stored
          · refine .idle (by simp [counted, last]) ?_
            simpa using stored
      | some value =>
          constructor
          · exact books.build_eq
          · simpa [Journal.starts, Journal.started, Journal.refused] using books.starts
          · simpa [Journal.started, Device.count] using books.order
          · simpa [numbers] using books.numbers
          · simpa [Device.count] using books.completed
          · simpa [Device.count, Journal.refused] using books.stalled
          · simpa using books.stored
          · have set : value ≠ 0 := fun zero => nonzero (congrArg some zero)
            have same : Journal.ran (journal ++ [.counted before.length true]) = before ++ [job] := by
              simpa using last
            refine .counted same (by simp [counted]) ?_ set
            simp [stored]

theorem store (books : Books build journal device) {job : Job} {value : UInt64}
    (working : device.worker = .counted job value) :
    Books build (journal ++ [.stored (journal.ran.length - 1) job value])
      { device with worker := .idle } := by
  have position := books.position
  rw [working] at position
  cases position with
  | @counted before job value last counted stored nonzero =>
      have number : journal.ran.length - 1 = before.length := by simp [last]
      rw [number]
      constructor
      · exact books.build_eq
      · simpa [Journal.starts, Journal.started, Journal.refused] using books.starts
      · simpa [Journal.started] using books.order
      · simpa using books.numbers
      · simpa [Journal.countedAs] using books.completed
      · simpa [Journal.countedAs, Journal.refused] using books.stalled
      · intro entry member
        simp only [Journal.stored_append, Journal.stored_singleton, Event.stored?, Option.toList,
          List.mem_append, List.mem_singleton] at member
        rcases member with earlier | rfl
        · simpa using books.stored entry earlier
        · simpa [last] using nonzero
      · refine .idle (by simp [counted, last]) ?_
        simpa [Journal.countedAs] using stored

theorem balance (books : Books build journal device) : device.Accounts build journal := by
  have distinct : (journal.counted.map Prod.fst).Nodup := by
    rw [books.numbers]
    exact List.nodup_range
  have once : (journal.countedAs true).Nodup := distinct.sublist (List.filter_sublist.map _)
  have stored : journal.stored.map Prod.fst <+: journal.countedAs true ∧
      journal.ran.length = journal.counted.length + device.uncounted := by
    rcases device with ⟨_, _, _, _, _, worker, _, _⟩
    cases books.position with
    | idle counted stored => exact ⟨stored ▸ List.prefix_rfl, counted.symm⟩
    | ran last counted stored nonzero =>
        exact ⟨stored ▸ List.prefix_rfl, by simp [last, counted, uncounted]⟩
    | counted last counted stored nonzero =>
        exact ⟨stored ▸ List.prefix_append _ _, by simp [last, counted, uncounted]⟩
  rcases stored with ⟨sooner, last⟩
  constructor
  -- A start was refused, or its job was run, or it still waits; one that was run
  -- has been counted, unless it is the one the worker is at.
  · have starts := books.starts
    have order := congrArg List.length books.order
    have counts := journal.length_counted
    rw [List.length_append] at order
    rw [books.completed, books.stalled]
    omega
  · exact books.completed
  · exact once.sublist sooner.sublist
  -- A word is stored under a number that has been counted as completed, and
  -- no number has been counted twice.
  · intro number job value member
    rcases books.stored _ member with ⟨known, set⟩
    have counted : (number, true) ∈ journal.counted := by
      have listed := sooner.subset (List.mem_map_of_mem (f := Prod.fst) member)
      simpa [Journal.countedAs] using listed
    refine ⟨?_, set, counted, ?_⟩
    · rw [books.order, List.getElem?_append_left (List.getElem?_eq_some_iff.mp known).1]
      exact known
    · intro failed
      have same := List.inj_on_of_nodup_map distinct counted failed rfl
      simp at same

end Device.Books

/-- No job has the value zero. -/
theorem Codecs.Sized.unit_run_ne {codecs : Codecs} (sized : codecs.Sized) (job : Job)
    (memory : Memory) : (job.run codecs memory).unit ≠ some 0 := by
  unfold Job.run
  cases job.scratchCovers with
  | false => simp
  | true =>
      cases made : job.codec codecs (job.contents (job.writeLiterals memory)) with
      | none => simp [made]
      | some output =>
          simp only [if_true, made, Effect.quiet, ne_eq, Option.some.injEq, Job.value]
          cases compresses : job.pipeline.isCompression with
          | false => simp
          | true =>
              rcases sized job _ output compresses made with ⟨filled, fits⟩
              rw [if_pos rfl]
              intro zero
              have size := UInt64.toNat_ofNat_of_lt' (n := output.length) fits
              rw [zero] at size
              exact filled (List.eq_nil_of_length_eq_zero size.symm)

namespace Device.Records

variable {codecs : Codecs} {build : Build} {journal : Journal} {device : Device}

theorem books (sized : codecs.Sized) (records : Records codecs build journal device) :
    Books build journal device := by
  induction records with
  | powerOn => exact .powerOn
  | handle records command books => exact books.handle command
  | @step journal device records memory books =>
      unfold event? Device.step
      cases working : device.worker with
      | idle =>
          cases waiting : device.queue with
          | nil =>
              change Books build (journal ++ []) device
              rw [List.append_nil]
              exact books
          | cons job rest => exact books.run working waiting (sized.unit_run_ne job memory)
      | ran job value =>
          have counted := books.count working
          cases value <;> exact counted
      | counted job value => exact books.store working

theorem exists_steps (records : Records codecs build journal device) (memory : Memory)
    (count : Nat) : ∃ later, Records codecs build later (device.steps codecs memory count).unit ∧
      later.handled = journal.handled := by
  induction count generalizing journal device memory with
  | zero => exact ⟨journal, records, rfl⟩
  | succ count hypothesis =>
      have silent : Journal.handled (device.event? codecs memory journal).toList = [] := by
        unfold event?
        cases device.worker with
        | idle => cases device.queue <;> rfl
        | ran job value => rfl
        | counted job value => rfl
      rcases hypothesis (records.step memory) (device.step codecs memory).memory with
        ⟨later, records, same⟩
      refine ⟨later, records, ?_⟩
      rw [same, Journal.handled_append, silent, List.append_nil]

end Device.Records

/-- Every run of a simulated device, in either mode, is one that a journal records. -/
theorem Simulated.Run.exists_records {codecs : Codecs} {build : Build} {mode : Mode}
    {trace : List (Command × Outcome)} {last : Simulated}
    (run : Run (.powerOnWith codecs build mode) trace last) :
    ∃ journal, Device.Records codecs build journal last.device ∧ journal.handled = trace := by
  induction run with
  | start => exact ⟨[], .powerOn, rfl⟩
  | @command trace last run memory command hypothesis =>
      rcases hypothesis with ⟨journal, records, rfl⟩
      have same := run.codecs_mode.1
      have taken := records.handle command
      have handled : Journal.handled (journal ++ [.handled command (last.device.outcome command)]) =
          journal.handled ++ [(command, last.device.outcome command)] := by simp
      unfold handle
      cases last.mode with
      | inline =>
          rw [same]
          rcases taken.exists_steps memory (last.device.accept command).1.pending with
            ⟨later, worked, kept⟩
          exact ⟨later, worked, kept.trans handled⟩
      | threaded schedule => exact ⟨_, taken, handled⟩
  | @pause trace last run memory pause hypothesis =>
      rcases hypothesis with ⟨journal, records, rfl⟩
      have same := run.codecs_mode.1
      unfold elapse
      cases last.mode with
      | inline => exact ⟨journal, records, rfl⟩
      | threaded schedule =>
          rw [same]
          exact records.exists_steps memory _

/-- Every start is accounted for: it is completed, stalled, waiting, or being
worked on and not yet counted.  A job stores its word at most once, never as
zero, and only after it has been counted, as completed.  So a host that sees the
word also sees the count.  Journals leave out nothing that happens to memory,
and no run of a simulated device. -/
theorem Device.Records.accounts {codecs : Codecs} (sized : codecs.Sized) (build : Build) :
    (∀ journal device, Device.Records codecs build journal device →
      device.Accounts build journal ∧ ∀ memory, (device.step codecs memory).memory =
        (device.event? codecs memory journal).elim memory (Event.onMemory codecs memory)) ∧
    ∀ mode trace last, Simulated.Run (.powerOnWith codecs build mode) trace last →
      ∃ journal, Device.Records codecs build journal last.device ∧ journal.handled = trace := by
  constructor
  · intro journal device records
    exact ⟨(records.books sized).balance, fun memory => device.memory_step codecs memory journal⟩
  · intro mode trace last run
    exact run.exists_records

/-- A request of a stand-alone compressor, whose worker makes its three steps. -/
theorem Device.Records.accounts_snappy :
    ∃ journal device, Device.Records .confined .snappyStandalone journal device ∧
      device.Accounts .snappyStandalone journal ∧ device.completed = 1 ∧
      journal.stored.map Prod.fst = [0] := by
  have first : Device.Records .confined .snappyStandalone _ _ := .powerOn
  have started := (first.handle (.pair .custom3 1 16 3)).handle (.pair .custom3 2 64 128)
  have records := ((started.step .blank).step .blank).step .blank
  have accounts := ((Device.Records.accounts Codecs.sized_confined .snappyStandalone).1 _ _ records).1
  exact ⟨_, _, records, accounts, by decide +kernel, by decide +kernel⟩

end RoccCodec
