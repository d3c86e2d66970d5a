import Mathlib.Data.List.DropRight
import RoccCodec.Proofs.Device.Worker

namespace RoccCodec

/-!
# Devices as readers of a history

A device that has been powered on can be described without its state.  Of all
the commands that arrived for a pipeline, a start uses those since the start
before it, and of each kind the last one counts; of the parameters the last
ones since power-on count; and of the codecs chosen on a slot the last one.
`Job.Reads` says what such a reading makes of a request, and
`Simulated.Run.reads_history` says that devices read in this way.
-/

namespace Arrival

def last? (kind : CommandKind) (arrivals : List Arrival) : Option Arrival :=
  (arrivals.filter fun arrival => arrival.kind = kind).getLast?

def since (kind : CommandKind) (arrivals : List Arrival) : List Arrival :=
  arrivals.rtakeWhile fun arrival => arrival.kind ≠ kind

@[simp] theorem last?_nil (kind : CommandKind) : last? kind [] = none := rfl

theorem last?_append_singleton (kind : CommandKind) (before : List Arrival) (arrival : Arrival) :
    last? kind (before ++ [arrival]) =
      if arrival.kind = kind then some arrival else last? kind before := by
  by_cases same : arrival.kind = kind <;> simp [last?, List.filter_append, same]

theorem last?_isSome_iff {kind : CommandKind} {arrivals : List Arrival} :
    (last? kind arrivals).isSome ↔ ∃ arrival ∈ arrivals, arrival.kind = kind := by
  induction arrivals using List.reverseRecOn with
  | nil => simp
  | append_singleton before next hypothesis =>
      rw [last?_append_singleton]
      by_cases same : next.kind = kind
      · simp [same]
      · rw [if_neg same, hypothesis]
        simp [same, or_and_right, exists_or]

theorem since_append_singleton (kind : CommandKind) (before : List Arrival) (arrival : Arrival) :
    since kind (before ++ [arrival]) =
      if arrival.kind = kind then [] else since kind before ++ [arrival] := by
  rw [since, List.rtakeWhile_concat]
  by_cases same : arrival.kind = kind <;> simp [since, same]

end Arrival

/-- The commands that a request of the pipeline cannot do without. -/
def Pipeline.required : Pipeline → List CommandKind
  | .snappyCompress | .snappyDecompress => [.srcInfo, .destInfo]
  | .zstdCompress => [.srcInfo, .literalsInfo, .sequencesInfo, .destInfo, .level]
  | .zstdDecompress => [.srcInfo, .workspaceInfo, .destInfo]

namespace Build

/-- The command as the pipeline receives it, if it starts a request of the
pipeline. -/
def start? (build : Build) (pipeline : Pipeline) (command : Command) : Option Arrival :=
  (build.own? pipeline command).filter fun arrival => some arrival.kind = build.trigger? pipeline

/-- What arrived for the pipeline since the start before this one, which is the
last of it. -/
def interval (build : Build) (pipeline : Pipeline) (history : List Command) (start : Arrival) :
    List Arrival :=
  Arrival.since start.kind (build.arrivals pipeline history) ++ [start]

/-- A request that can be started: everything it requires arrived in time, and
a unit with several codecs is set to the right one. -/
structure Complete (build : Build) (pipeline : Pipeline) (slot : Opcode)
    (history : List Command) (start : Arrival) : Prop where
  fields : ∀ kind ∈ pipeline.required,
    ∃ arrival ∈ build.interval pipeline history start, arrival.kind = kind
  chosen : ((build.table? pipeline).bind FunctTable.selectAlgorithm).isSome →
    (build.choices slot history).getLast? = some pipeline.algorithm

theorem start?_eq_some_iff {build : Build} {pipeline : Pipeline} {command : Command}
    {arrival : Arrival} : build.start? pipeline command = some arrival ↔
      ∃ table, build.table? pipeline = some table ∧ table.opcode = command.opcode ∧
        build.own? pipeline command = some arrival ∧ arrival.kind = table.startTrigger := by
  unfold start?
  rw [Option.filter_eq_some_iff, decide_eq_true_iff]
  constructor
  · rintro ⟨own, starts⟩
    cases read : build.decode? command.opcode command.funct with
    | none => simp [own?, read] at own
    | some reading =>
        rcases reading with ⟨owner, kind⟩
        rcases table?_of_decode? read with ⟨table, present, placed, _⟩
        have same : owner = pipeline := by
          by_contra other
          simp [own?, read, other] at own
        subst owner
        simp only [trigger?, present, Option.map_some, Option.some.injEq] at starts
        exact ⟨table, present, placed, own, starts⟩
  · rintro ⟨table, present, _, own, starts⟩
    exact ⟨own, by simp [trigger?, present, starts]⟩

end Build

def Tuning.lastPushed (arrivals : List Arrival) : Tuning where
  history := (Arrival.last? .history arrivals).map Arrival.rs1
  hashTableLog2 := (Arrival.last? .hashTableLog2 arrivals).map Arrival.rs1
  latency := (Arrival.last? .latencyInjection arrivals).map fun arrival =>
    ⟨arrival.rs1, arrival.rs2 != 0⟩

/-- Pushing in the order of arrival keeps the last value of each parameter. -/
theorem Tuning.foldl_receive (arrivals : List Arrival) :
    arrivals.foldl Tuning.receive .powerOn = .lastPushed arrivals := by
  induction arrivals using List.reverseRecOn with
  | nil => rfl
  | append_singleton before next hypothesis =>
      rw [List.foldl_append, hypothesis]
      rcases next with ⟨kind, rs1, rs2⟩
      cases kind <;>
        simp [Tuning.receive, lastPushed, CommandKind.parameter?, record,
          Arrival.last?_append_singleton]

namespace Job

def bufferOf (arrival : Arrival) : Buffer := ⟨arrival.rs1, arrival.rs2⟩

/-- The level of an arrival: the low 32 bits of its operand, with their sign. -/
def levelOf (arrival : Arrival) : Int32 := arrival.rs1.toUInt32.toInt32

/-- Every field of the job is what the last arrival of its kind said. -/
structure Reads (owner : Pipeline) (arrivals : List Arrival) (latched : Tuning) (job : Job) :
    Prop where
  pipeline : job.pipeline = owner
  source : (Arrival.last? .srcInfo arrivals).map bufferOf = some job.source
  destination : (Arrival.last? .destInfo arrivals).map (fun arrival => (arrival.rs1, arrival.rs2)) =
    some (job.destination, job.word)
  auxiliary :
    match owner with
    | .snappyCompress | .snappyDecompress => job.auxiliary = .none
    | .zstdCompress => ∃ literals sequences,
        (Arrival.last? .literalsInfo arrivals).map bufferOf = some literals ∧
        (Arrival.last? .sequencesInfo arrivals).map bufferOf = some sequences ∧
        job.auxiliary = .streams literals sequences
    | .zstdDecompress => ∃ address,
        (Arrival.last? .workspaceInfo arrivals).map Arrival.rs1 = some address ∧
        job.auxiliary = .workspace address
  level :
    match owner with
    | .zstdCompress => (Arrival.last? .level arrivals).map levelOf = some job.level
    | _ => job.level = 0
  tuning : job.tuning = latched

end Job

namespace Staging

def add (staging : Staging) (arrival : Arrival) : Staging :=
  staging.stage arrival.kind arrival.rs1 arrival.rs2

/-- After a start nothing is left of what arrived before it. -/
theorem foldl_receive (trigger : CommandKind) (arrivals : List Arrival) :
    arrivals.foldl (receive (some trigger)) .empty =
      (Arrival.since trigger arrivals).foldl add .empty := by
  induction arrivals using List.reverseRecOn with
  | nil => rfl
  | append_singleton before next hypothesis =>
      rw [List.foldl_append, hypothesis, Arrival.since_append_singleton]
      by_cases same : next.kind = trigger
      · simp [receive, same]
      · simp [receive, same, add]

/-- The staged fields, as the arrivals give them. -/
theorem foldl_add (arrivals : List Arrival) :
    arrivals.foldl add .empty =
      { source := (Arrival.last? .srcInfo arrivals).map Job.bufferOf
        literals := (Arrival.last? .literalsInfo arrivals).map Job.bufferOf
        sequences := (Arrival.last? .sequencesInfo arrivals).map Job.bufferOf
        workspace := (Arrival.last? .workspaceInfo arrivals).map Arrival.rs1
        destination := (Arrival.last? .destInfo arrivals).map
          fun arrival => (arrival.rs1, arrival.rs2)
        level := (Arrival.last? .level arrivals).map Job.levelOf } := by
  induction arrivals using List.reverseRecOn with
  | nil => rfl
  | append_singleton before next hypothesis =>
      rw [List.foldl_append, hypothesis]
      rcases next with ⟨kind, rs1, rs2⟩
      cases kind <;>
        simp [add, stage, Job.bufferOf, Job.levelOf, Arrival.last?_append_singleton]

/-- The fields a job takes are the only ones that can be missing. -/
theorem isSome_job? (staging : Staging) (owner : Pipeline) (latched : Tuning) :
    (staging.job? owner latched).isSome =
      (staging.source.isSome && staging.destination.isSome &&
        (staging.auxiliary? owner).isSome && (staging.level? owner).isSome) := by
  unfold job?
  cases staging.source <;> cases staging.destination <;> cases staging.auxiliary? owner <;>
    cases staging.level? owner <;> rfl

/-- The staged fields make a job exactly if all that the pipeline requires has
arrived. -/
theorem isSome_job?_iff (arrivals : List Arrival) (owner : Pipeline) (latched : Tuning) :
    ((arrivals.foldl add .empty).job? owner latched).isSome ↔
      ∀ kind ∈ owner.required, ∃ arrival ∈ arrivals, arrival.kind = kind := by
  simp only [← Arrival.last?_isSome_iff, isSome_job?, foldl_add, Bool.and_eq_true,
    Option.isSome_map]
  cases owner with
  | snappyCompress => simp [Pipeline.required, auxiliary?, level?]
  | snappyDecompress => simp [Pipeline.required, auxiliary?, level?]
  | zstdCompress =>
      have both : (auxiliary? (arrivals.foldl add .empty) .zstdCompress).isSome = true ↔
          (Arrival.last? .literalsInfo arrivals).isSome = true ∧
            (Arrival.last? .sequencesInfo arrivals).isSome = true := by
        simp only [auxiliary?, foldl_add]
        cases Arrival.last? .literalsInfo arrivals <;>
          cases Arrival.last? .sequencesInfo arrivals <;> simp
      rw [foldl_add] at both
      rw [both]
      simp only [Pipeline.required, level?, Option.isSome_map, List.forall_mem_cons,
        List.not_mem_nil, false_implies, implies_true, and_true]
      constructor
      · rintro ⟨⟨⟨source, destination⟩, literals, sequences⟩, level⟩
        exact ⟨source, literals, sequences, destination, level⟩
      · rintro ⟨source, literals, sequences, destination, level⟩
        exact ⟨⟨⟨source, destination⟩, literals, sequences⟩, level⟩
  | zstdDecompress =>
      have only : (auxiliary? (arrivals.foldl add .empty) .zstdDecompress).isSome =
          (Arrival.last? .workspaceInfo arrivals).isSome := by
        simp only [auxiliary?, foldl_add]
        cases Arrival.last? .workspaceInfo arrivals <;> rfl
      rw [foldl_add] at only
      rw [only]
      simp only [Pipeline.required, level?, Option.isSome_some, List.forall_mem_cons,
        List.not_mem_nil, false_implies, implies_true, and_true]
      constructor
      · rintro ⟨⟨source, destination⟩, workspace⟩
        exact ⟨source, workspace, destination⟩
      · rintro ⟨source, workspace, destination⟩
        exact ⟨⟨source, destination⟩, workspace⟩

/-- The job says what the last arrivals said. -/
theorem reads_of_job? {arrivals : List Arrival} {owner : Pipeline} {latched : Tuning} {job : Job}
    (made : (arrivals.foldl add .empty).job? owner latched = some job) :
    job.Reads owner arrivals latched := by
  simp only [foldl_add, job?, Option.bind_eq_bind, Option.bind_eq_some_iff, Option.pure_def,
    Option.some.injEq, Prod.exists] at made
  rcases made with ⟨source, hasSource, destination, word, hasDestination, auxiliary, hasAuxiliary,
    level, hasLevel, rfl⟩
  refine ⟨rfl, hasSource, hasDestination, ?_, ?_, rfl⟩
  · cases owner <;>
      simp only [auxiliary?, Option.bind_eq_bind, Option.bind_eq_some_iff, Option.pure_def,
        Option.some.injEq] at hasAuxiliary ⊢
    case zstdCompress =>
      rcases hasAuxiliary with ⟨literals, hasLiterals, sequences, hasSequences, same⟩
      exact ⟨literals, sequences, hasLiterals, hasSequences, same.symm⟩
    case zstdDecompress =>
      rcases hasAuxiliary with ⟨address, hasAddress, same⟩
      exact ⟨address, hasAddress, same.symm⟩
    all_goals exact hasAuxiliary.symm
  · cases owner <;> simp only [level?, Option.some.injEq] at hasLevel ⊢
    case zstdCompress => exact hasLevel
    all_goals exact hasLevel.symm

end Staging

namespace Simulated.Run

variable {codecs : Codecs} {build : Build} {mode : Mode} {last : Simulated}
  {trace : List (Command × Outcome)}

/-- A device latches for each pipeline what was pushed to it last. -/
theorem tuning_eq_lastPushed (run : Run (.powerOnWith codecs build mode) trace last)
    (pipeline : Pipeline) :
    last.device.tuning.get pipeline =
      .lastPushed (build.arrivals pipeline (commands trace)) := by
  rw [run.tuning pipeline]
  simp [powerOnWith, Device.powerOn, Tuning.foldl_receive]

/-- A start of a pipeline reads the arrivals since the start before it, its own
among them, and the codec chosen last on the slot. -/
theorem startOutcome_eq (run : Run (.powerOnWith codecs build mode) trace last)
    {pipeline : Pipeline} {table : FunctTable} (present : build.table? pipeline = some table)
    {start : Arrival} (starts : start.kind = table.startTrigger) :
    last.device.startOutcome table pipeline start =
      if table.selectAlgorithm.isNone ∨
          (build.choices table.opcode (commands trace)).getLast? = some pipeline.algorithm then
        match ((build.interval pipeline (commands trace) start).foldl Staging.add .empty).job?
            pipeline (.lastPushed (build.arrivals pipeline (commands trace))) with
        | some job => .started job
        | none => .stalled
      else .stalled := by
  have staged := run.staging pipeline
  have latched := run.tuning_eq_lastPushed pipeline
  have chosen := run.selected table.opcode
  simp only [powerOnWith, Device.powerOn, Build.trigger?, present, Option.map_some,
    PerPipeline.get_replicate, PerOpcode.get_replicate, Staging.foldl_receive,
    Option.or_none] at staged chosen
  unfold Device.startOutcome Device.ready? Device.isSelected Build.interval
  simp only [Device.stage, PerPipeline.get_modify, if_true, staged, latched, chosen,
    List.foldl_append, List.foldl_cons, List.foldl_nil, ← starts]
  by_cases selected : table.selectAlgorithm.isNone ∨
      (build.choices table.opcode (commands trace)).getLast? = some pipeline.algorithm
  · have granted : (table.selectAlgorithm.isNone ||
        (build.choices table.opcode (commands trace)).getLast? == some pipeline.algorithm) = true := by
      simpa using selected
    rw [if_pos selected, if_pos granted]
    rfl
  · have refused : ¬ (table.selectAlgorithm.isNone ||
        (build.choices table.opcode (commands trace)).getLast? == some pipeline.algorithm) = true := by
      simpa using selected
    rw [if_neg selected, if_neg refused]

/-- A start either makes a job that reads the history, or is a stalled request;
the history says which. -/
theorem outcome_of_start (run : Run (.powerOnWith codecs build mode) trace last)
    {pipeline : Pipeline} {command : Command} {start : Arrival}
    (starts : build.start? pipeline command = some start) :
    (build.Complete pipeline command.opcode (commands trace) start ∧
      ∃ job, last.device.outcome command = .started job ∧
        job.Reads pipeline (build.interval pipeline (commands trace) start)
          (.lastPushed (build.arrivals pipeline (commands trace)))) ∨
    (¬ build.Complete pipeline command.opcode (commands trace) start ∧
      last.device.outcome command = .stalled) := by
  rcases Build.start?_eq_some_iff.mp starts with ⟨table, present, placed, own, trigger⟩
  have same : last.device.build = build := run.build
  have outcome := Device.outcome_of_trigger (same ▸ present) (same ▸ own) trigger
  rw [run.startOutcome_eq present trigger, placed] at outcome
  have choice : (((build.table? pipeline).bind FunctTable.selectAlgorithm).isSome →
      (build.choices command.opcode (commands trace)).getLast? = some pipeline.algorithm) ↔
      (table.selectAlgorithm.isNone ∨
        (build.choices command.opcode (commands trace)).getLast? = some pipeline.algorithm) := by
    rw [present]
    cases has : table.selectAlgorithm <;> simp [has]
  have fields := Staging.isSome_job?_iff (build.interval pipeline (commands trace) start) pipeline
    (.lastPushed (build.arrivals pipeline (commands trace)))
  by_cases selected : table.selectAlgorithm.isNone ∨
      (build.choices command.opcode (commands trace)).getLast? = some pipeline.algorithm
  · rw [if_pos selected] at outcome
    cases made : ((build.interval pipeline (commands trace) start).foldl Staging.add .empty).job?
        pipeline (.lastPushed (build.arrivals pipeline (commands trace))) with
    | some job =>
        rw [made] at outcome fields
        exact Or.inl ⟨⟨fields.mp rfl, choice.mpr selected⟩, job, outcome,
          Staging.reads_of_job? made⟩
    | none =>
        rw [made] at outcome fields
        refine Or.inr ⟨?_, outcome⟩
        intro complete
        simpa using fields.mpr complete.fields
  · rw [if_neg selected] at outcome
    refine Or.inr ⟨?_, outcome⟩
    intro complete
    exact selected (choice.mp complete.chosen)

/-- A command that starts nothing leaves it to the worker's own steps which
requests are counted: an inline device has none of them left. -/
theorem handle_of_jobs_eq_nil (run : Run (.powerOnWith codecs build mode) trace last)
    {command : Command} (none : (last.device.outcome command).jobs = []) (memory : Memory) :
    (last.handle memory command).unit.device = (last.device.accept command).1 ∧
      (last.handle memory command).memory = memory := by
  have grown := (last.device.accept_outcome command).1
  rw [none, List.append_nil] at grown
  unfold handle
  cases working : last.mode with
  | threaded schedule => exact ⟨rfl, rfl⟩
  | inline =>
      have inline : mode = .inline := by
        rw [← working, run.codecs_mode.2]
        rfl
      have rest := run.pending_eq_zero inline rfl
      have still : (last.device.accept command).1.pending = 0 := by
        rw [Device.pending_eq_zero_iff, grown, Device.worker_accept]
        exact Device.pending_eq_zero_iff.mp rest
      dsimp only
      rw [Device.finish, still]
      exact ⟨rfl, rfl⟩

/-- Devices read histories.  After any sequence of commands from power-on, each
pipeline has latched what was pushed to it last; a start makes a job exactly if
the request is complete, every field of the job is the last of its kind since
the start before, and a start that makes none is counted as stalled once; and
no other command starts anything. -/
theorem reads_history (run : Run (.powerOnWith codecs build mode) trace last) :
    (∀ pipeline, last.device.tuning.get pipeline =
      .lastPushed (build.arrivals pipeline (commands trace))) ∧
    ∀ command,
      (∀ pipeline start, build.start? pipeline command = some start →
        ((∃ job, last.device.outcome command = .started job) ↔
          build.Complete pipeline command.opcode (commands trace) start) ∧
        (∀ job, last.device.outcome command = .started job →
          job.Reads pipeline (build.interval pipeline (commands trace) start)
            (.lastPushed (build.arrivals pipeline (commands trace))) ∧
          (last.device.accept command).1.queue = last.device.queue ++ [job] ∧
          (last.device.accept command).1.stalled = last.device.stalled) ∧
        (¬ build.Complete pipeline command.opcode (commands trace) start →
          ∀ memory, (last.handle memory command).unit.device.queue = last.device.queue ∧
            (last.handle memory command).unit.device.stalled = last.device.stalled + 1)) ∧
      ((∀ pipeline, build.start? pipeline command = none) →
        ∀ memory, (last.handle memory command).unit.device.queue = last.device.queue ∧
          (last.handle memory command).unit.device.stalled = last.device.stalled) := by
  refine ⟨run.tuning_eq_lastPushed, ?_⟩
  intro command
  have counts := last.device.accept_outcome command
  constructor
  · intro pipeline start starts
    rcases run.outcome_of_start starts with ⟨complete, job, outcome, reads⟩ |
      ⟨incomplete, outcome⟩
    · refine ⟨⟨fun _ => complete, fun _ => ⟨job, outcome⟩⟩, ?_, fun lacks => absurd complete lacks⟩
      intro started same
      rw [outcome, Outcome.started.injEq] at same
      subst started
      rw [outcome] at counts
      exact ⟨reads, counts.1, counts.2⟩
    · refine ⟨⟨?_, fun complete => absurd complete incomplete⟩, ?_, ?_⟩
      · rintro ⟨job, started⟩
        rw [outcome] at started
        contradiction
      · intro job started
        rw [outcome] at started
        contradiction
      · intro _ memory
        have taken := run.handle_of_jobs_eq_nil (by rw [outcome]; rfl) memory
        rw [outcome] at counts
        rw [taken.1]
        exact ⟨by simpa [Outcome.jobs] using counts.1, counts.2⟩
  · intro idle memory
    have same : last.device.build = build := run.build
    have quiet : last.device.outcome command = .quiet := by
      apply Device.outcome_eq_quiet
      intro pipeline arrival own starts
      have absent := idle pipeline
      simp only [Build.start?, same ▸ own, Option.filter_eq_none_iff] at absent
      exact absent arrival rfl (decide_eq_true (same ▸ starts))
    have taken := run.handle_of_jobs_eq_nil (by rw [quiet]; rfl) memory
    rw [quiet] at counts
    rw [taken.1]
    exact ⟨by simpa [Outcome.jobs] using counts.1, counts.2⟩

/-- A source and a destination are a complete Snappy request. -/
theorem reads_source_and_destination :
    ∃ last, Run (.powerOn .snappyStandalone .inline) [(.pair .custom3 1 16 3, .quiet)] last ∧
      ∃ job, last.device.outcome (.pair .custom3 2 64 128) = .started job ∧
        job.Reads .snappyCompress [⟨.srcInfo, 16, 3⟩, ⟨.destInfo, 64, 128⟩] .powerOn := by
  have run : Run (.powerOn .snappyStandalone .inline) [(.pair .custom3 1 16 3, .quiet)] _ :=
    Run.start.command .blank (.pair .custom3 1 16 3)
  refine ⟨_, run, ?_⟩
  have starts : Build.snappyStandalone.start? .snappyCompress (.pair .custom3 2 64 128) =
      some ⟨.destInfo, 64, 128⟩ := by decide
  rcases (reads_history run).2 (.pair .custom3 2 64 128) with ⟨read, _⟩
  rcases read .snappyCompress ⟨.destInfo, 64, 128⟩ starts with ⟨complete, reads, _⟩
  rcases complete.mpr ⟨by decide, by decide⟩ with ⟨job, started⟩
  exact ⟨job, started, (reads job started).1⟩

end Simulated.Run

end RoccCodec
