import RoccCodec.Proofs.Device.Waiting
import RoccCodec.Proofs.Task

namespace RoccCodec

/-!
# What a facade remembers of its unit

Nothing can be read back from a unit, so a facade keeps a record of what it has
pushed.  The unit keeps its own, and the two meet only in the codes of commands:
a code that a neighbour on the same slot would read as its own, or a push that
has reached the unit and is forgotten when a later step fails, would set them
apart.

`Machine.Latches` follows the parameters of the device through each thing that a
facade does.  Only a push changes them, and only those of its own pipeline.
`Workshop.Step` is then one operation on one of several facades that share a
device, and `Workshop.shadow_eq_latch` describes both records after any sequence
of operations by the pushes that were accepted.
-/

/-! ## The parameters that were pushed last -/

namespace Parameter

def history? : Parameter → Option UInt64
  | .history bytes => some bytes
  | .hashTableLog2 _ | .latency _ | .algorithm _ => none

def hashTableLog2? : Parameter → Option UInt64
  | .hashTableLog2 log2 => some log2
  | .history _ | .latency _ | .algorithm _ => none

def latency? : Parameter → Option Latency
  | .latency model => some model
  | .history _ | .hashTableLog2 _ | .algorithm _ => none

end Parameter

namespace Tuning

/-- The value last pushed of each parameter; none before the first. -/
def latest (pushes : List Parameter) : Tuning where
  history := (pushes.filterMap Parameter.history?).getLast?
  hashTableLog2 := (pushes.filterMap Parameter.hashTableLog2?).getLast?
  latency := (pushes.filterMap Parameter.latency?).getLast?

theorem latest_append_singleton (pushes : List Parameter) (parameter : Parameter) :
    latest (pushes ++ [parameter]) = (latest pushes).record parameter := by
  cases parameter <;>
    simp [latest, record, Parameter.history?, Parameter.hashTableLog2?, Parameter.latency?]

end Tuning

theorem PerPipeline.modify_modify {α : Type} (table : PerPipeline α) (pipeline : Pipeline)
    (first second : α → α) :
    (table.modify pipeline first).modify pipeline second =
      table.modify pipeline fun value => second (first value) := by
  apply PerPipeline.ext_get
  intro read
  by_cases same : read = pipeline <;> simp [same]

/-! ## The parameters of a device -/

namespace Channel

variable {channel : Channel} {parameter : Parameter} {command : Command}

/-- A parameter that a unit keeps arrives as it was pushed. -/
theorem parameter?_push (kept : parameter.kind ≠ .selectAlgorithm)
    (sent : channel.push parameter = .ok command) :
    channel.Carries command ⟨parameter.kind, command.rs1, command.rs2⟩ ∧
      parameter.kind.parameter? command.rs1 command.rs2 = some parameter := by
  rcases bind_eq_ok_iff.mp sent with ⟨funct, has, made⟩
  cases made
  cases parameter with
  | history bytes => exact ⟨carries_of_code? _ (code?_of_code has) rfl rfl, rfl⟩
  | hashTableLog2 log2 => exact ⟨carries_of_code? _ (code?_of_code has) rfl rfl, rfl⟩
  | latency latency =>
      refine ⟨carries_of_code? _ (code?_of_code has) rfl rfl, ?_⟩
      rcases latency with ⟨cycles, hasCache⟩
      cases hasCache <;> rfl
  | algorithm algorithm => exact absurd rfl kept

/-- A command that is shared by the unit belongs to no pipeline. -/
theorem own?_of_shared (kind : CommandKind) (command : Command)
    (coded : channel.table.code? kind = some command.funct)
    (placed : command.opcode = channel.table.opcode) (shared : kind.isShared = true)
    (pipeline : Pipeline) : channel.build.own? pipeline command = none := by
  rcases Build.decode?_of_shared channel.present coded shared with ⟨owner, read⟩
  simp [Build.own?, placed, read, shared]

end Channel

/-- The device is of this build and has latched these parameters. -/
structure Machine.Latches (build : Build) (tuning : PerPipeline Tuning)
    (machine : Machine Simulated) : Prop where
  build : machine.unit.device.build = build
  tuning : machine.unit.device.tuning = tuning

namespace Machine.Latches

variable {build : Build} {tuning : PerPipeline Tuning} {machine sent : Machine Simulated}
  {channel : Channel} {parameter : Parameter} {command : Command}

theorem elapse (latches : machine.Latches build tuning) (pause : Pause) :
    (machine.elapse pause).Latches build tuning := by
  have alike := machine.unit.alike_elapse machine.memory pause
  exact ⟨alike.build.trans latches.build, alike.tuning.trans latches.tuning⟩

/-- A pipeline that receives the command takes it in, and the others do not. -/
theorem issue (latches : machine.Latches build tuning) (command : Command) :
    (machine.issue command).2.unit.device.build = build ∧
      ∀ pipeline, (machine.issue command).2.unit.device.tuning.get pipeline =
        (build.own? pipeline command).elim (tuning.get pipeline)
          (tuning.get pipeline).receive := by
  have taken := machine.unit.alike_handle machine.memory command
  have paused := (machine.unit.handle machine.memory command).unit.alike_elapse
    (machine.unit.handle machine.memory command).memory .command
  constructor
  · exact (paused.build.trans taken.build).trans ((Device.build_accept _ _).trans latches.build)
  · intro pipeline
    have same := congrArg (fun table => table.get pipeline) (paused.tuning.trans taken.tuning)
    refine same.trans ?_
    rw [Device.tuning_accept, latches.build, latches.tuning]

theorem issue_of_own?_eq_none (latches : machine.Latches build tuning)
    (foreign : ∀ pipeline, build.own? pipeline command = none) :
    (machine.issue command).2.Latches build tuning := by
  rcases latches.issue command with ⟨same, taken⟩
  refine ⟨same, PerPipeline.ext_get fun pipeline => ?_⟩
  rw [taken, foreign]
  rfl

/-- A push replaces the value of its parameter on its own pipeline. -/
theorem issue_push (latches : machine.Latches channel.build tuning)
    (pushed : channel.push parameter = .ok command) :
    (machine.issue command).2.Latches channel.build
      (tuning.modify channel.pipeline fun latched => latched.record parameter) := by
  by_cases choice : parameter.kind = .selectAlgorithm
  · cases parameter with
    | algorithm algorithm =>
        rcases bind_eq_ok_iff.mp pushed with ⟨funct, has, made⟩
        cases made
        have foreign := Channel.own?_of_shared .selectAlgorithm
          (.single channel.table.opcode funct algorithm.id) (Channel.code?_of_code has) rfl rfl
        simpa [Tuning.record] using latches.issue_of_own?_eq_none foreign
    | history bytes => cases choice
    | hashTableLog2 log2 => cases choice
    | latency latency => cases choice
  · rcases Channel.parameter?_push choice pushed with ⟨carries, arrives⟩
    rcases latches.issue command with ⟨same, taken⟩
    refine ⟨same, PerPipeline.ext_get fun pipeline => ?_⟩
    rw [taken, carries.own, PerPipeline.get_modify]
    split
    · rename_i owner
      rw [owner, Option.elim_some, Tuning.receive]
      simp only [arrives]
    · rfl

theorem fence (latches : machine.Latches channel.build tuning) :
    (machine.issue channel.fence).2.Latches channel.build tuning :=
  latches.issue_of_own?_eq_none (Channel.own?_of_shared .sfence channel.fence rfl rfl rfl)

theorem settle (latches : machine.Latches channel.build tuning) (policy : PollPolicy)
    (word : UInt64) : (channel.settle policy word machine).2.Latches channel.build tuning := by
  refine Channel.settle_keeps (fun _ pause held => held.elapse pause) ?_ channel policy word ?_
  · exact fun _ _ held => ⟨held.build, held.tuning⟩
  · exact latches.issue_of_own?_eq_none
      (Channel.own?_of_shared .checkCompletion channel.check rfl rfl rfl)

/-- The fields of a request are no parameters. -/
theorem dispatch {request : Request} {word : UInt64} (latches : machine.Latches channel.build tuning)
    (accepted : channel.dispatch request word machine = (.ok (), sent)) :
    sent.Latches channel.build tuning := by
  rcases Channel.dispatch_starts latches.build accepted with ⟨_, _, _, _, run, _, same, _⟩
  exact ⟨run.build.trans latches.build, same.trans latches.tuning⟩

end Machine.Latches

namespace Facade

variable {facade next : Facade} {tuning : PerPipeline Tuning} {machine after : Machine Simulated}
  {parameter : Parameter} {steps : List (HostStep Simulated)}

theorem push_eq_ok_iff :
    facade.push parameter machine = (.ok (), next, after) ↔
      ∃ command, facade.channel.push parameter = .ok command ∧
        next = { facade with tuning := facade.tuning.record parameter } ∧
        after = (machine.issue command).2 := by
  cases made : facade.channel.push parameter with
  | error fault => simp [push_of_error made]
  | ok command => simp [push_of_ok made, eq_comm]

theorem eq_of_push_eq_error {fault : Fault}
    (refused : facade.push parameter machine = (.error fault, next, after)) :
    next = facade ∧ after = machine := by
  cases made : facade.channel.push parameter with
  | error found =>
      rw [push_of_error made] at refused
      cases refused
      exact ⟨rfl, rfl⟩
  | ok command =>
      rw [push_of_ok made] at refused
      cases refused

/-- Both records take the parameter in. -/
theorem latches_push (latches : machine.Latches facade.channel.build tuning)
    (pushed : facade.push parameter machine = (.ok (), next, after)) :
    next = { facade with tuning := facade.tuning.record parameter } ∧
      after.Latches facade.channel.build
        (tuning.modify facade.channel.pipeline fun latched => latched.record parameter) := by
  rcases push_eq_ok_iff.mp pushed with ⟨command, made, rfl, rfl⟩
  exact ⟨rfl, latches.issue_push made⟩

theorem push_of_code?_eq_none (missing : facade.channel.table.code? parameter.kind = none)
    (machine : Machine Simulated) :
    facade.push parameter machine =
      (.error (.unsupported facade.channel.pipeline parameter.kind), facade, machine) := by
  have uncoded : facade.channel.code parameter.kind =
      .error (.unsupported facade.channel.pipeline parameter.kind) := by
    unfold Channel.code
    rw [missing]
  have refused : facade.channel.push parameter =
      .error (.unsupported facade.channel.pipeline parameter.kind) := by
    unfold Channel.push
    rw [uncoded]
    rfl
  exact push_of_error refused

/-- Whether a parameter is refused does not hang on what has been pushed before. -/
theorem exists_push (pushed : facade.push parameter machine = (.ok (), next, after))
    (shadow : Tuning) {current : Machine Simulated} (latches : current.Latches facade.channel.build tuning) :
    ∃ sent, { facade with tuning := shadow }.push parameter current =
        (.ok (), { facade with tuning := shadow.record parameter }, sent) ∧
      sent.Latches facade.channel.build
        (tuning.modify facade.channel.pipeline fun latched => latched.record parameter) := by
  rcases push_eq_ok_iff.mp pushed with ⟨command, made, _⟩
  refine ⟨(current.issue command).2, ?_, latches.issue_push made⟩
  exact push_eq_ok_iff.mpr ⟨command, made, rfl, rfl⟩

theorem latches_allocateRegion {build : Build} (latches : machine.Latches build tuning)
    (capacity : Nat) : (allocateRegion capacity machine).2.Latches build tuning := by
  unfold allocateRegion
  split
  · exact latches
  · exact ⟨latches.build, latches.tuning⟩

theorem latches_dispatch (latches : machine.Latches facade.channel.build tuning)
    (task : Task facade.channel.pipeline) :
    (facade.dispatch task machine).2.Latches facade.channel.build tuning := by
  rcases sends : facade.dispatch task machine with ⟨_ | _, sent⟩
  · rw [dispatch_of_error sends]
    exact latches
  · exact latches.dispatch (dispatch_eq_ok_iff.mp sends).2

/-- A call gives the facade back as it was. -/
theorem latches_run (latches : machine.Latches facade.channel.build tuning)
    (task : Task facade.channel.pipeline) :
    (facade.run task machine).2.1 = facade ∧
      (facade.run task machine).2.2.Latches facade.channel.build tuning := by
  have dispatched := latches_dispatch latches task
  rcases sends : facade.dispatch task machine with ⟨_ | _, sent⟩ <;> rw [sends] at dispatched
  · rw [run_of_error sends]
    exact ⟨rfl, dispatched⟩
  · rw [run_of_ok sends]
    exact ⟨rfl, dispatched.settle facade.policy facade.word⟩

theorem latches_wait (latches : machine.Latches facade.channel.build tuning)
    (settled : Option Completion) :
    (facade.wait settled machine).2.Latches facade.channel.build tuning := by
  cases settled with
  | some completion => exact latches
  | none => exact latches.settle facade.policy facade.word

theorem latches_work (latches : machine.Latches facade.channel.build tuning)
    (passive : ∀ step ∈ steps, step.isPassive = true) (settled : Option Completion) :
    (facade.work settled machine steps).machine.Latches facade.channel.build tuning := by
  induction steps generalizing settled machine with
  | nil => exact latches
  | cons step rest hypothesis =>
      have more := fun other member => passive other (List.mem_cons_of_mem step member)
      have paused := latches.elapse .hostWork
      cases step with
      | poll => exact hypothesis paused more settled
      | wait => exact hypothesis (latches_wait paused settled) more _
      | pipeline => exact hypothesis paused more settled
      | abort => exact paused
      | act change => cases passive (.act change) List.mem_cons_self

theorem latches_scope (latches : machine.Latches facade.channel.build tuning)
    (task : Task facade.channel.pipeline) (passive : ∀ step ∈ steps, step.isPassive = true) :
    (facade.scope task steps machine).2.1 = facade ∧
      (facade.scope task steps machine).2.2.Latches facade.channel.build tuning := by
  have dispatched := latches_dispatch latches task
  rcases sends : facade.dispatch task machine with ⟨_ | _, sent⟩ <;> rw [sends] at dispatched
  · rw [scope_of_error sends]
    exact ⟨rfl, dispatched⟩
  · rw [scope_of_ok sends]
    exact ⟨rfl, latches_wait (latches_work dispatched passive none) _⟩

/-- Every pipeline takes a history size, so what may fail in setting up a region
comes after the push. -/
theorem latches_setupRegion {capacity : Nat} {history : Option UInt64}
    {region : Except Fault Buffer} (latches : machine.Latches facade.channel.build tuning)
    (ended : facade.setupRegion capacity history machine = (region, next, after)) :
    next = { facade with
        tuning := (history.map Parameter.history).elim facade.tuning facade.tuning.record } ∧
      after.Latches facade.channel.build (tuning.modify facade.channel.pipeline fun latched =>
        (history.map Parameter.history).elim latched latched.record) := by
  have fenced : (facade.fence machine).Latches facade.channel.build tuning := latches.fence
  cases history with
  | none =>
      cases ended
      refine ⟨rfl, ?_⟩
      change Machine.Latches _ (tuning.modify facade.channel.pipeline fun latched => latched) _
      rw [PerPipeline.modify_self]
      exact latches_allocateRegion fenced capacity
  | some bytes =>
      have pushed : ∃ sent, facade.push (.history bytes) (facade.fence machine) =
          (.ok (), { facade with tuning := facade.tuning.record (.history bytes) }, sent) :=
        ⟨_, rfl⟩
      rcases pushed with ⟨sent, pushed⟩
      unfold setupRegion at ended
      simp only [pushed] at ended
      cases ended
      exact ⟨rfl, latches_allocateRegion (latches_push fenced pushed).2 capacity⟩

/-- What a host does with a facade, and the parameter that is pushed by it.  A
request is sent and waited for in one call, or in parts, so that other things can
be done between them. -/
inductive Acts (facade : Facade) (machine : Machine Simulated) :
    Option Parameter → Facade → Machine Simulated → Prop
  | push {parameter : Parameter} {next : Facade} {after : Machine Simulated}
    (pushed : facade.push parameter machine = (.ok (), next, after)) :
    Acts facade machine (some parameter) next after
  | refuse {parameter : Parameter} {fault : Fault} {next : Facade} {after : Machine Simulated}
    (refused : facade.push parameter machine = (.error fault, next, after)) :
    Acts facade machine none next after
  | setupRegion {capacity : Nat} {history : Option UInt64} {region : Except Fault Buffer}
    {next : Facade} {after : Machine Simulated}
    (ended : facade.setupRegion capacity history machine = (region, next, after)) :
    Acts facade machine (history.map .history) next after
  | setupWorkspace (capacity : Nat) :
    Acts facade machine none facade (allocateRegion capacity machine).2
  | fence : Acts facade machine none facade (facade.fence machine)
  | setPolicy (policy : PollPolicy) : Acts facade machine none { facade with policy } machine
  | run (task : Task facade.channel.pipeline) :
    Acts facade machine none (facade.run task machine).2.1 (facade.run task machine).2.2
  | scope (task : Task facade.channel.pipeline) {steps : List (HostStep Simulated)}
    (passive : ∀ step ∈ steps, step.isPassive = true) :
    Acts facade machine none (facade.scope task steps machine).2.1
      (facade.scope task steps machine).2.2
  | dispatch (task : Task facade.channel.pipeline) :
    Acts facade machine none facade (facade.dispatch task machine).2
  | wait (settled : Option Completion) :
    Acts facade machine none facade (facade.wait settled machine).2

/-- Both records take in what is pushed, and nothing else changes either. -/
theorem Acts.records {pushed : Option Parameter} (acts : facade.Acts machine pushed next after)
    (latches : machine.Latches facade.channel.build tuning) :
    next.channel = facade.channel ∧ next.tuning = pushed.elim facade.tuning facade.tuning.record ∧
      after.Latches facade.channel.build (tuning.modify facade.channel.pipeline fun latched =>
        pushed.elim latched latched.record) := by
  have same : (tuning.modify facade.channel.pipeline fun latched =>
      (none : Option Parameter).elim latched latched.record) = tuning :=
    PerPipeline.modify_self tuning facade.channel.pipeline
  cases acts with
  | push pushed =>
      rcases latches_push latches pushed with ⟨rfl, latched⟩
      exact ⟨rfl, rfl, latched⟩
  | setupRegion ended =>
      rcases latches_setupRegion latches ended with ⟨rfl, latched⟩
      exact ⟨rfl, rfl, latched⟩
  | refuse refused =>
      rcases eq_of_push_eq_error refused with ⟨rfl, rfl⟩
      exact ⟨rfl, rfl, same.symm ▸ latches⟩
  | setupWorkspace capacity => exact ⟨rfl, rfl, same.symm ▸ latches_allocateRegion latches capacity⟩
  | fence => exact ⟨rfl, rfl, same.symm ▸ latches.fence⟩
  | setPolicy policy => exact ⟨rfl, rfl, same.symm ▸ latches⟩
  | run task =>
      rcases latches_run latches task with ⟨kept, latched⟩
      rw [kept, same]
      exact ⟨rfl, rfl, latched⟩
  | scope task passive =>
      rcases latches_scope latches task passive with ⟨kept, latched⟩
      rw [kept, same]
      exact ⟨rfl, rfl, latched⟩
  | dispatch task => exact ⟨rfl, rfl, same.symm ▸ latches_dispatch latches task⟩
  | wait settled => exact ⟨rfl, rfl, same.symm ▸ latches_wait latches settled⟩

end Facade

/-! ## Several facades on one device -/

/-- A host with a simulated device and the facades it has opened, one for each
pipeline at most. -/
structure Workshop where
  machine : Machine Simulated
  facades : PerPipeline (Option Facade)

namespace Workshop

def start (codecs : Codecs) (build : Build) (mode : Mode) : Workshop :=
  ⟨.start (.powerOnWith codecs build mode), .replicate none⟩

/-- One thing that happens, with what is pushed by it.  Between any two things that
the host does with its facades, the device may work on, and the host may change
the memory. -/
inductive Step (build : Build) (workshop : Workshop) :
    Option (Pipeline × Parameter) → Workshop → Prop
  | opens {pipeline : Pipeline} {facade : Facade} {after : Machine Simulated}
    (closed : workshop.facades.get pipeline = none)
    (opened : Facade.open? build pipeline workshop.machine = .ok (facade, after)) :
    Step build workshop none ⟨after, workshop.facades.set pipeline (some facade)⟩
  | acts {pipeline : Pipeline} {facade next : Facade} {pushed : Option Parameter}
    {after : Machine Simulated} (owned : workshop.facades.get pipeline = some facade)
    (acts : facade.Acts workshop.machine pushed next after) :
    Step build workshop (pushed.map fun parameter => (pipeline, parameter))
      ⟨after, workshop.facades.set pipeline (some next)⟩
  | pause (pause : Pause) : Step build workshop none ⟨workshop.machine.elapse pause, workshop.facades⟩
  | write (memory : Memory) :
    Step build workshop none ⟨{ workshop.machine with memory }, workshop.facades⟩

/-- The host has come here from the first workshop, and these are the parameters it
has pushed, the oldest first. -/
inductive Reaches (build : Build) (first : Workshop) :
    List (Pipeline × Parameter) → Workshop → Prop
  | start : Reaches build first [] first
  | step {pushes : List (Pipeline × Parameter)} {pushed : Option (Pipeline × Parameter)}
    {last next : Workshop} (reaches : Reaches build first pushes last)
    (step : Step build last pushed next) : Reaches build first (pushes ++ pushed.toList) next

/-- The pushes through the facade of a pipeline. -/
def pushesTo (pipeline : Pipeline) (pushes : List (Pipeline × Parameter)) : List Parameter :=
  pushes.filterMap fun push => if push.1 = pipeline then some push.2 else none

theorem pushesTo_append_some (pipeline owner : Pipeline) (pushes : List (Pipeline × Parameter))
    (pushed : Option Parameter) :
    pushesTo pipeline (pushes ++ (pushed.map fun parameter => (owner, parameter)).toList) =
      pushesTo pipeline pushes ++ if owner = pipeline then pushed.toList else [] := by
  cases pushed with
  | none => simp [pushesTo]
  | some parameter =>
      by_cases same : owner = pipeline <;> simp [pushesTo, same]

/-- A pipeline takes in what is pushed through its own facade, and nothing else. -/
theorem latest_pushesTo_append (pipeline owner : Pipeline) (pushes : List (Pipeline × Parameter))
    (pushed : Option Parameter) :
    Tuning.latest (pushesTo pipeline (pushes ++ (pushed.map fun parameter =>
      (owner, parameter)).toList)) =
      if pipeline = owner then
        pushed.elim (.latest (pushesTo pipeline pushes))
          (Tuning.latest (pushesTo pipeline pushes)).record
      else .latest (pushesTo pipeline pushes) := by
  rw [pushesTo_append_some]
  by_cases same : pipeline = owner
  · rw [if_pos same.symm, if_pos same]
    cases pushed with
    | none => rw [Option.toList_none, List.append_nil, Option.elim_none]
    | some parameter => exact Tuning.latest_append_singleton _ parameter
  · rw [if_neg (Ne.symm same), if_neg same, List.append_nil]

/-- Both records of every pipeline are what the pushes to it make of them. -/
structure Recorded (build : Build) (pushes : List (Pipeline × Parameter)) (workshop : Workshop) :
    Prop where
  built : workshop.machine.unit.device.build = build
  latched : ∀ pipeline,
    workshop.machine.unit.device.tuning.get pipeline = .latest (pushesTo pipeline pushes)
  unopened : ∀ pipeline, workshop.facades.get pipeline = none → pushesTo pipeline pushes = []
  opened : ∀ pipeline facade, workshop.facades.get pipeline = some facade →
    facade.channel.build = build ∧ facade.channel.pipeline = pipeline ∧
      facade.tuning = .latest (pushesTo pipeline pushes)

namespace Recorded

variable {build : Build} {pushes : List (Pipeline × Parameter)} {workshop next : Workshop}
  {pushed : Option (Pipeline × Parameter)}

theorem latches (recorded : Recorded build pushes workshop) :
    workshop.machine.Latches build workshop.machine.unit.device.tuning :=
  ⟨recorded.built, rfl⟩

theorem of_latches (recorded : Recorded build pushes workshop) {after : Machine Simulated}
    (latches : after.Latches build workshop.machine.unit.device.tuning) :
    Recorded build pushes ⟨after, workshop.facades⟩ := by
  refine ⟨latches.build, fun pipeline => ?_, recorded.unopened, recorded.opened⟩
  exact (congrArg (fun table => table.get pipeline) latches.tuning).trans (recorded.latched pipeline)

theorem opens (recorded : Recorded build pushes workshop) {pipeline : Pipeline} {facade : Facade}
    {after : Machine Simulated} (closed : workshop.facades.get pipeline = none)
    (opened : Facade.open? build pipeline workshop.machine = .ok (facade, after)) :
    Recorded build pushes ⟨after, workshop.facades.set pipeline (some facade)⟩ := by
  rcases bind_eq_ok_iff.mp opened with ⟨channel, found, made⟩
  rcases Channel.open?_eq_ok_iff.mp found with ⟨built, owns⟩
  cases made
  refine ⟨recorded.built, recorded.latched, ?_, ?_⟩
  · intro other unopened
    rw [PerPipeline.get_set] at unopened
    split at unopened
    · cases unopened
    · exact recorded.unopened other unopened
  · intro other facade owned
    rw [PerPipeline.get_set] at owned
    split at owned
    · rename_i same
      cases owned
      rw [same, recorded.unopened pipeline closed]
      exact ⟨built, owns, rfl⟩
    · exact recorded.opened other facade owned

theorem acts (recorded : Recorded build pushes workshop) {pipeline : Pipeline}
    {facade next : Facade} {pushed : Option Parameter} {after : Machine Simulated}
    (owned : workshop.facades.get pipeline = some facade)
    (acts : facade.Acts workshop.machine pushed next after) :
    Recorded build (pushes ++ (pushed.map fun parameter => (pipeline, parameter)).toList)
      ⟨after, workshop.facades.set pipeline (some next)⟩ := by
  rcases recorded.opened pipeline facade owned with ⟨built, rfl, remembered⟩
  have latches := recorded.latches
  rw [← built] at latches
  rcases acts.records latches with ⟨kept, shadow, latched⟩
  refine ⟨latched.build.trans built, ?_, ?_, ?_⟩
  · intro other
    rw [latest_pushesTo_append, latched.tuning, PerPipeline.get_modify]
    split
    · rename_i same
      rw [same, recorded.latched]
    · exact recorded.latched other
  · intro other unopened
    rw [PerPipeline.get_set] at unopened
    split at unopened
    · cases unopened
    · rename_i different
      rw [pushesTo_append_some, if_neg (Ne.symm different), List.append_nil]
      exact recorded.unopened other unopened
  · intro other holder held
    rw [latest_pushesTo_append]
    rw [PerPipeline.get_set] at held
    split at held
    · rename_i same
      cases held
      rw [if_pos same, same, kept, shadow, remembered]
      exact ⟨built, rfl, rfl⟩
    · rename_i different
      rw [if_neg different]
      exact recorded.opened other holder held

/-- Whatever happens, the two records stay what the pushes make of them. -/
theorem step (recorded : Recorded build pushes workshop) (step : Step build workshop pushed next) :
    Recorded build (pushes ++ pushed.toList) next := by
  cases step with
  | acts owned acts => exact recorded.acts owned acts
  | opens closed opened =>
      rw [Option.toList_none, List.append_nil]
      exact recorded.opens closed opened
  | pause pause =>
      rw [Option.toList_none, List.append_nil]
      exact recorded.of_latches (recorded.latches.elapse pause)
  | write memory =>
      rw [Option.toList_none, List.append_nil]
      exact recorded.of_latches ⟨recorded.built, rfl⟩

theorem of_reaches {codecs : Codecs} {mode : Mode}
    (reaches : Reaches build (start codecs build mode) pushes workshop) :
    Recorded build pushes workshop := by
  induction reaches with
  | start =>
      refine ⟨rfl, fun pipeline => PerPipeline.get_replicate _ pipeline, fun _ _ => rfl, ?_⟩
      intro pipeline facade owned
      rw [start, PerPipeline.get_replicate] at owned
      cases owned
  | step reaches step hypothesis => exact hypothesis.step step

end Recorded

/-- What a facade remembers is what its unit has latched.  Whatever a host does with
the facades of a device that has just been built, in any order, the two records of
a pipeline are the same after each step: of each parameter the value that was last
pushed through the facade, and none before the first.

So pushing a parameter again changes neither record, and pushes of different
parameters may change places.  A parameter the pipeline has no code for is refused,
and the refusal leaves the facade and the machine behind as they were. -/
theorem shadow_eq_latch {codecs : Codecs} {build : Build} {mode : Mode}
    {pushes : List (Pipeline × Parameter)} {workshop : Workshop}
    (reaches : Reaches build (start codecs build mode) pushes workshop) {pipeline : Pipeline}
    {facade : Facade} (owned : workshop.facades.get pipeline = some facade) :
    facade.tuning = workshop.machine.unit.device.tuning.get pipeline ∧
    facade.tuning = .latest (pushesTo pipeline pushes) ∧
    (∀ parameter once sent, facade.push parameter workshop.machine = (.ok (), once, sent) →
      ∃ again, once.push parameter sent = (.ok (), once, again) ∧
        again.unit.device.tuning = sent.unit.device.tuning) ∧
    (∀ first second one other sent posted, first.kind ≠ second.kind →
      facade.push first workshop.machine = (.ok (), one, sent) →
      facade.push second workshop.machine = (.ok (), other, posted) →
      ∃ both left right, one.push second sent = (.ok (), both, left) ∧
        other.push first posted = (.ok (), both, right) ∧
        left.unit.device.tuning = right.unit.device.tuning) ∧
    ∀ parameter, facade.channel.table.code? parameter.kind = none →
      facade.push parameter workshop.machine =
        (.error (.unsupported pipeline parameter.kind), facade, workshop.machine) := by
  have recorded := Recorded.of_reaches reaches
  rcases recorded.opened pipeline facade owned with ⟨built, rfl, remembered⟩
  have latches := recorded.latches
  rw [← built] at latches
  refine ⟨?_, remembered, ?_, ?_, ?_⟩
  · rw [remembered, recorded.latched]
  · intro parameter once sent pushed
    rcases Facade.latches_push latches pushed with ⟨rfl, first⟩
    rcases Facade.exists_push pushed (facade.tuning.record parameter) first with
      ⟨again, repeated, second⟩
    rw [Tuning.record_record] at repeated
    refine ⟨again, repeated, ?_⟩
    rw [second.tuning, first.tuning, PerPipeline.modify_modify]
    simp only [Tuning.record_record]
  · intro first second one other sent posted different pushed placed
    rcases Facade.latches_push latches pushed with ⟨rfl, sending⟩
    rcases Facade.latches_push latches placed with ⟨rfl, posting⟩
    rcases Facade.exists_push placed (facade.tuning.record first) sending with
      ⟨left, leftward, forth⟩
    rcases Facade.exists_push pushed (facade.tuning.record second) posting with
      ⟨right, rightward, back⟩
    rw [← Tuning.record_comm _ different] at rightward
    refine ⟨_, left, right, leftward, rightward, ?_⟩
    rw [forth.tuning, back.tuning, PerPipeline.modify_modify, PerPipeline.modify_modify]
    simp only [Tuning.record_comm _ different]
  · intro parameter missing
    exact Facade.push_of_code?_eq_none missing workshop.machine

/-- A history size that is pushed before a region that cannot be allocated stays in
both records, and a parameter without a code leaves no trace in either. -/
theorem shadow_eq_latch_compressor :
    ∃ workshop facade,
      Reaches .compressor (start .software .compressor .inline)
        [(.zstdCompress, .hashTableLog2 14), (.zstdCompress, .history 4096)] workshop ∧
      workshop.facades.get .zstdCompress = some facade ∧
      facade.tuning = ⟨some 4096, some 14, none⟩ ∧
      workshop.machine.unit.device.tuning.get .zstdCompress = ⟨some 4096, some 14, none⟩ ∧
      facade.push (.algorithm .zstd) workshop.machine =
        (.error (.unsupported .zstdCompress .selectAlgorithm), facade, workshop.machine) := by
  have session : ∃ workshop facade,
      Reaches .compressor (start .software .compressor .inline)
        [(.zstdCompress, .hashTableLog2 14), (.zstdCompress, .history 4096)] workshop ∧
      workshop.facades.get .zstdCompress = some facade ∧
      facade.tuning = ⟨some 4096, some 14, none⟩ ∧
      facade.channel.table.code? .selectAlgorithm = none := by
    let first := start .software .compressor .inline
    let facade : Facade := ⟨⟨.compressor, .zstdCompress, Build.compressorZstdCompress, rfl⟩,
      .powerOn, .spin, (first.machine.allocate 8).1⟩
    let tuned : Facade := { facade with tuning := ⟨none, some 14, none⟩ }
    let limited : Facade := { facade with tuning := ⟨some 4096, some 14, none⟩ }
    let opened : Workshop := ⟨(first.machine.allocate 8).2, first.facades.set .zstdCompress facade⟩
    have opening : Step .compressor first none opened := .opens rfl rfl
    have owned : opened.facades.get .zstdCompress = some facade := rfl
    have pushing : facade.Acts opened.machine (some (.hashTableLog2 14)) tuned _ := .push rfl
    have setting : ∃ region after,
        tuned.setupRegion 0 (some 4096) (opened.machine.issue (.single .custom2 12 14)).2 =
          (.error region, limited, after) := ⟨_, _, rfl⟩
    rcases setting with ⟨region, after, ended⟩
    exact ⟨_, limited, ((Reaches.start.step opening).step (.acts owned pushing)).step
      (.acts rfl (.setupRegion ended)), rfl, rfl, rfl⟩
  rcases session with ⟨workshop, facade, reaches, owned, tuning, missing⟩
  rcases shadow_eq_latch reaches owned with ⟨same, _, _, _, refused⟩
  exact ⟨workshop, facade, reaches, owned, tuning, same.symm.trans tuning,
    refused (.algorithm .zstd) missing⟩

end Workshop

end RoccCodec
