import RoccCodec.Device.Simulated

namespace RoccCodec

/-!
# What a command does to a device

A command arrives as an opcode slot and a function code.  Some codes belong
to a unit as a whole and read the same for every pipeline of the slot.  Every
other code belongs to one pipeline, and only the fields and parameters of that
pipeline change when it arrives.

`Device.accept` is described one component at a time: the staged fields, the
parameters, the chosen codecs, and what became of the command.  None of these
depends on the queue, the worker or the memory, which is why statements about
commands hold whatever the worker has done in between.
-/

/-- The code of such a command belongs to the unit, not to one of its pipelines. -/
def CommandKind.isShared : CommandKind → Bool
  | .sfence | .selectAlgorithm | .checkCompletion => true
  | _ => false

/-- A command as the pipeline it belongs to receives it. -/
structure Arrival where
  kind : CommandKind
  rs1 : UInt64
  rs2 : UInt64
  deriving DecidableEq, Repr

namespace Build

/-- The command as the pipeline receives it, if it belongs to the pipeline. -/
def own? (build : Build) (pipeline : Pipeline) (command : Command) : Option Arrival :=
  match build.decode? command.opcode command.funct with
  | some (owner, kind) =>
    if owner = pipeline ∧ kind.isShared = false then some ⟨kind, command.rs1, command.rs2⟩
    else none
  | none => none

/-- The codec the command chooses on a slot.  A number that names no codec
chooses none. -/
def choice? (build : Build) (slot : Opcode) (command : Command) : Option Algorithm :=
  match build.decode? command.opcode command.funct with
  | some (_, .selectAlgorithm) =>
    if command.opcode = slot then Algorithm.ofId? command.rs1 else none
  | _ => none

/-- The command that starts a request of the pipeline. -/
def trigger? (build : Build) (pipeline : Pipeline) : Option CommandKind :=
  (build.table? pipeline).map FunctTable.startTrigger

/-- A command is only read as one that a pipeline on its slot has under its code. -/
theorem table?_of_decode? {build : Build} {opcode : Opcode} {funct : UInt8}
    {owner : Pipeline} {kind : CommandKind}
    (read : build.decode? opcode funct = some (owner, kind)) :
    ∃ table, build.table? owner = some table ∧ table.opcode = opcode ∧
      table.code? kind = some funct := by
  rcases List.exists_of_findSome?_eq_some read with ⟨pipeline, _, found⟩
  simp only [Option.bind_eq_bind, Option.bind_eq_some_iff] at found
  rcases found with ⟨table, present, found⟩
  by_cases same : table.opcode = opcode
  · simp only [same, if_true, Option.bind_eq_some_iff, Option.pure_def, Option.some.injEq,
      Prod.mk.injEq] at found
    rcases found with ⟨first, coded, rfl, rfl⟩
    exact ⟨table, present, same, FunctTable.code?_of_kindOf? coded⟩
  · simp [same] at found

end Build

namespace FunctTable

/-- Only a destination or a level starts a request. -/
theorem startTrigger_eq (table : FunctTable) :
    table.startTrigger = .destInfo ∨ table.startTrigger = .level := by
  unfold startTrigger
  cases table.level.isSome
  · exact Or.inl rfl
  · exact Or.inr rfl

theorem isShared_startTrigger (table : FunctTable) : table.startTrigger.isShared = false := by
  rcases table.startTrigger_eq with same | same <;> rw [same] <;> rfl

end FunctTable

/-- Take an arrival in.  The start uses the fields up. -/
def Staging.receive (trigger : Option CommandKind) (staging : Staging) (arrival : Arrival) :
    Staging :=
  if some arrival.kind = trigger then .empty
  else staging.stage arrival.kind arrival.rs1 arrival.rs2

/-- Keep the parameter that arrives, if it is one. -/
def Tuning.receive (tuning : Tuning) (arrival : Arrival) : Tuning :=
  match arrival.kind.parameter? arrival.rs1 arrival.rs2 with
  | some parameter => tuning.record parameter
  | none => tuning

/-- What the arrival of a command led to: nothing was started, or a job, or a
request that will never complete. -/
inductive Outcome where
  | quiet
  | started (job : Job)
  | stalled
  deriving DecidableEq, Repr

namespace Outcome

def jobs : Outcome → List Job
  | .started job => [job]
  | .quiet | .stalled => []

/-- What is added to the count of stalled requests. -/
def stalls : Outcome → Nat
  | .stalled => 1
  | .quiet | .started _ => 0

end Outcome

namespace Device

/-- What became of a command, read off the queue and the count of stalled
requests before and after it. -/
def outcome (device : Device) (command : Command) : Outcome :=
  let after := (device.accept command).1
  match after.queue.drop device.queue.length with
  | job :: _ => .started job
  | [] => if after.stalled = device.stalled then .quiet else .stalled

/-- The job that a start makes of the staged fields, unless the unit is set to
another codec or a field is missing. -/
def ready? (device : Device) (table : FunctTable) (pipeline : Pipeline) (slot : Opcode) :
    Option Job :=
  if device.isSelected table pipeline slot then
    (device.staging.get pipeline).job? pipeline (device.tuning.get pipeline)
  else
    none

/-- A start in one equation: whatever comes of it, the fields are used up. -/
theorem start_fst (device : Device) (table : FunctTable) (pipeline : Pipeline) (slot : Opcode) :
    (device.start table pipeline slot).1 =
      { device with
        staging := device.staging.set pipeline .empty
        queue := device.queue ++ (device.ready? table pipeline slot).toList
        stalled := device.stalled + if (device.ready? table pipeline slot).isSome then 0 else 1 } := by
  unfold start ready?
  cases chosen : device.isSelected table pipeline slot
  · simp
  · cases made : (device.staging.get pipeline).job? pipeline (device.tuning.get pipeline) <;>
      simp [made]

/-- A command that is read as a start of its owner stages its operands first. -/
theorem accept_of_trigger {device : Device} {command : Command} {owner : Pipeline}
    {table : FunctTable} (present : device.build.table? owner = some table)
    (read : device.build.decode? command.opcode command.funct =
      some (owner, table.startTrigger)) :
    (device.accept command).1 =
      ((device.stage owner table.startTrigger command.rs1 command.rs2).start table owner
        command.opcode).1 := by
  rcases table.startTrigger_eq with same | same <;>
    simp [accept, read, present, same, CommandKind.parameter?]

/-- Any other command of a pipeline changes a field or a parameter and no more. -/
theorem accept_of_not_trigger {device : Device} {command : Command} {owner : Pipeline}
    {kind : CommandKind} (read : device.build.decode? command.opcode command.funct =
      some (owner, kind)) (own : kind.isShared = false)
    (later : some kind ≠ device.build.trigger? owner) :
    (device.accept command).1 =
      { device with
        staging := device.staging.modify owner
          (fun staging => staging.stage kind command.rs1 command.rs2)
        tuning := device.tuning.modify owner
          (fun tuning => tuning.receive ⟨kind, command.rs1, command.rs2⟩) } := by
  rcases Build.table?_of_decode? read with ⟨table, present, _, _⟩
  simp only [Build.trigger?, present, Option.map_some, ne_eq, Option.some.injEq] at later
  cases kind <;> simp_all [accept, CommandKind.isShared, CommandKind.parameter?, latch, stage,
    Tuning.receive, Staging.stage]

/-- A command of the unit as a whole can only choose a codec. -/
theorem accept_of_shared {device : Device} {command : Command} {owner : Pipeline}
    {kind : CommandKind} (read : device.build.decode? command.opcode command.funct =
      some (owner, kind)) (shared : kind.isShared = true) :
    ∃ selected : PerOpcode (Option Algorithm),
      (device.accept command).1 = { device with selected } ∧
        ∀ slot, selected.get slot =
          (device.build.choice? slot command).or (device.selected.get slot) := by
  rcases Build.table?_of_decode? read with ⟨table, present, _, _⟩
  have different : kind ≠ table.startTrigger := by
    intro same
    rw [same, table.isShared_startTrigger] at shared
    contradiction
  cases kind with
  | sfence =>
      refine ⟨device.selected, ?_, ?_⟩
      · simp [accept, read, present, different, CommandKind.parameter?, stage, Staging.stage]
      · simp [Build.choice?, read]
  | checkCompletion =>
      refine ⟨device.selected, ?_, ?_⟩
      · simp [accept, read, present, different, CommandKind.parameter?, stage, Staging.stage]
      · simp [Build.choice?, read]
  | selectAlgorithm =>
      cases named : Algorithm.ofId? command.rs1 with
      | none =>
          refine ⟨device.selected, ?_, ?_⟩
          · simp [accept, read, select, named]
          · simp [Build.choice?, read, named]
      | some algorithm =>
          refine ⟨device.selected.set command.opcode (some algorithm), ?_, ?_⟩
          · simp [accept, read, select, named]
          · intro slot
            by_cases same : slot = command.opcode
            · subst slot
              simp [Build.choice?, read, named]
            · have other : ¬ command.opcode = slot := fun equal => same equal.symm
              simp [Build.choice?, read, same, other]
  | _ => simp [CommandKind.isShared] at shared

/-! ## One equation for each component -/

/-- The cases of `accept`, each with what the command means to every pipeline
and every slot: it belongs to the unit, or it is a field or a parameter of one
pipeline, or it starts that pipeline. -/
theorem accept_cases (device : Device) (command : Command) :
    ((∀ pipeline, device.build.own? pipeline command = none) ∧
      ∃ selected : PerOpcode (Option Algorithm),
        (device.accept command).1 = { device with selected } ∧
          ∀ slot, selected.get slot =
            (device.build.choice? slot command).or (device.selected.get slot)) ∨
    ∃ owner arrival,
      (∀ pipeline, device.build.own? pipeline command =
        if pipeline = owner then some arrival else none) ∧
      (∀ slot, device.build.choice? slot command = none) ∧
      ((some arrival.kind ≠ device.build.trigger? owner ∧
        (device.accept command).1 =
          { device with
            staging := device.staging.modify owner
              (fun staging => staging.stage arrival.kind arrival.rs1 arrival.rs2)
            tuning := device.tuning.modify owner (fun tuning => tuning.receive arrival) }) ∨
      ∃ table, device.build.table? owner = some table ∧ arrival.kind = table.startTrigger ∧
        table.opcode = command.opcode ∧
        (device.accept command).1 =
          ((device.stage owner arrival.kind arrival.rs1 arrival.rs2).start table owner
            command.opcode).1) := by
  cases read : device.build.decode? command.opcode command.funct with
  | none =>
      refine Or.inl ⟨?_, device.selected, ?_, ?_⟩
      · simp [Build.own?, read]
      · simp [accept, read]
      · simp [Build.choice?, read]
  | some reading =>
      rcases reading with ⟨owner, kind⟩
      cases own : kind.isShared with
      | true =>
          exact Or.inl ⟨by simp [Build.own?, read, own], accept_of_shared read own⟩
      | false =>
          refine Or.inr ⟨owner, ⟨kind, command.rs1, command.rs2⟩, ?_, ?_, ?_⟩
          · intro pipeline
            by_cases same : pipeline = owner
            · simp [Build.own?, read, own, same]
            · have other : ¬ owner = pipeline := fun equal => same equal.symm
              simp [Build.own?, read, same, other]
          · intro slot
            cases kind <;> simp_all [Build.choice?, CommandKind.isShared]
          · rcases Build.table?_of_decode? read with ⟨table, present, placed, _⟩
            by_cases starts : kind = table.startTrigger
            · subst kind
              exact Or.inr ⟨table, present, rfl, placed, accept_of_trigger present read⟩
            · have later : some kind ≠ device.build.trigger? owner := by
                simpa [Build.trigger?, present] using starts
              exact Or.inl ⟨later, accept_of_not_trigger read own later⟩

theorem staging_accept (device : Device) (command : Command) (pipeline : Pipeline) :
    (device.accept command).1.staging.get pipeline =
      (device.build.own? pipeline command).elim (device.staging.get pipeline)
        ((device.staging.get pipeline).receive (device.build.trigger? pipeline)) := by
  rcases device.accept_cases command with ⟨foreign, selected, taken, _⟩ |
    ⟨owner, arrival, own, _, ⟨later, taken⟩ | ⟨table, present, starts, _, taken⟩⟩
  · simp [taken, foreign]
  · rw [taken, own]
    by_cases same : pipeline = owner
    · subst pipeline
      simp [Staging.receive, later]
    · simp [same]
  · rw [taken, own, start_fst]
    by_cases same : pipeline = owner
    · subst pipeline
      simp [stage, Staging.receive, Build.trigger?, present, starts]
    · simp [stage, same]

theorem tuning_accept (device : Device) (command : Command) (pipeline : Pipeline) :
    (device.accept command).1.tuning.get pipeline =
      (device.build.own? pipeline command).elim (device.tuning.get pipeline)
        (device.tuning.get pipeline).receive := by
  rcases device.accept_cases command with ⟨foreign, selected, taken, _⟩ |
    ⟨owner, arrival, own, _, ⟨later, taken⟩ | ⟨table, present, starts, _, taken⟩⟩
  · simp [taken, foreign]
  · rw [taken, own]
    by_cases same : pipeline = owner
    · subst pipeline
      simp
    · simp [same]
  · rw [taken, own, start_fst]
    by_cases same : pipeline = owner
    · subst pipeline
      rcases table.startTrigger_eq with kind | kind <;>
        simp [stage, Tuning.receive, starts, kind, CommandKind.parameter?]
    · simp [stage, same]

theorem selected_accept (device : Device) (command : Command) (slot : Opcode) :
    (device.accept command).1.selected.get slot =
      (device.build.choice? slot command).or (device.selected.get slot) := by
  rcases device.accept_cases command with ⟨_, selected, taken, chosen⟩ |
    ⟨owner, arrival, _, unchosen, ⟨_, taken⟩ | ⟨table, _, _, _, taken⟩⟩
  · rw [taken]
    exact chosen slot
  · simp [taken, unchosen]
  · simp [taken, unchosen, start_fst, stage]

@[simp] theorem build_accept (device : Device) (command : Command) :
    (device.accept command).1.build = device.build := by
  rcases device.accept_cases command with ⟨_, _, taken, _⟩ |
    ⟨_, _, _, _, ⟨_, taken⟩ | ⟨_, _, _, _, taken⟩⟩ <;> simp [taken, start_fst, stage]

@[simp] theorem worker_accept (device : Device) (command : Command) :
    (device.accept command).1.worker = device.worker := by
  rcases device.accept_cases command with ⟨_, _, taken, _⟩ |
    ⟨_, _, _, _, ⟨_, taken⟩ | ⟨_, _, _, _, taken⟩⟩ <;> simp [taken, start_fst, stage]

@[simp] theorem completed_accept (device : Device) (command : Command) :
    (device.accept command).1.completed = device.completed := by
  rcases device.accept_cases command with ⟨_, _, taken, _⟩ |
    ⟨_, _, _, _, ⟨_, taken⟩ | ⟨_, _, _, _, taken⟩⟩ <;> simp [taken, start_fst, stage]

/-! ## What became of the command -/

/-- A start succeeds exactly if the unit is set to the codec of the pipeline
and the fields, the one that arrives included, make a job. -/
def startOutcome (device : Device) (table : FunctTable) (pipeline : Pipeline)
    (arrival : Arrival) : Outcome :=
  match (device.stage pipeline arrival.kind arrival.rs1 arrival.rs2).ready? table pipeline
      table.opcode with
  | some job => .started job
  | none => .stalled

theorem outcome_of_trigger {device : Device} {command : Command} {pipeline : Pipeline}
    {table : FunctTable} {arrival : Arrival} (present : device.build.table? pipeline = some table)
    (own : device.build.own? pipeline command = some arrival)
    (starts : arrival.kind = table.startTrigger) :
    device.outcome command = device.startOutcome table pipeline arrival := by
  rcases device.accept_cases command with ⟨foreign, _⟩ |
    ⟨owner, received, read, _, ⟨later, _⟩ | ⟨found, has, _, placed, taken⟩⟩
  · simp [foreign] at own
  · exfalso
    rw [read] at own
    by_cases same : pipeline = owner
    · simp only [same, if_true, Option.some.injEq] at own
      subst received owner
      simp [Build.trigger?, present, starts] at later
    · simp [same] at own
  · rw [read] at own
    by_cases same : pipeline = owner
    · simp only [same, if_true, Option.some.injEq] at own
      subst received owner
      rw [present, Option.some.injEq] at has
      subst found
      unfold outcome startOutcome
      rw [taken, start_fst, placed]
      cases made : (device.stage pipeline arrival.kind arrival.rs1 arrival.rs2).ready? table
          pipeline command.opcode <;> simp [stage]
    · simp [same] at own

/-- A command that starts no pipeline starts no request. -/
theorem outcome_eq_quiet {device : Device} {command : Command}
    (idle : ∀ pipeline arrival, device.build.own? pipeline command = some arrival →
      some arrival.kind ≠ device.build.trigger? pipeline) :
    device.outcome command = .quiet := by
  rcases device.accept_cases command with ⟨_, _, taken, _⟩ |
    ⟨owner, arrival, own, _, ⟨_, taken⟩ | ⟨table, present, starts, _, _⟩⟩
  · simp [outcome, taken]
  · simp [outcome, taken]
  · exfalso
    have same := own owner
    simp only [if_true] at same
    exact idle owner arrival same (by simp [Build.trigger?, present, starts])

/-- The queue and the count of stalled requests change only as the outcome says. -/
theorem accept_outcome (device : Device) (command : Command) :
    (device.accept command).1.queue = device.queue ++ (device.outcome command).jobs ∧
      (device.accept command).1.stalled = device.stalled + (device.outcome command).stalls := by
  rcases device.accept_cases command with ⟨_, _, taken, _⟩ |
    ⟨owner, arrival, own, _, ⟨_, taken⟩ | ⟨table, present, starts, _, taken⟩⟩
  · simp [outcome, taken, Outcome.jobs, Outcome.stalls]
  · simp [outcome, taken, Outcome.jobs, Outcome.stalls]
  · unfold outcome
    rw [taken, start_fst]
    cases made : (device.stage owner arrival.kind arrival.rs1 arrival.rs2).ready? table
        owner command.opcode <;> simp [stage, Outcome.jobs, Outcome.stalls]

end Device

end RoccCodec
