import Mathlib.Data.List.Forall2
import RoccCodec.Proofs.Device.History
import RoccCodec.Proofs.Lookup

namespace RoccCodec

/-!
# What a unit makes of a request

A channel takes a request apart into commands, and the unit puts the commands
together again.  The two are written against the same tables and share nothing
else, so their agreement is a statement about every table of every build: each
code of a pipeline is read as that pipeline's, with the same kind
(`Build.decode?_of_code?`), and a code for the choice of a codec is read as
one, whichever pipeline of the unit it is attributed to.

`Channel.dispatch_starts` puts this together.  It assumes nothing about what
the unit has staged, latched or selected before.
-/

namespace Build

/-- On every build, the codes of a pipeline are its own. -/
theorem decode?_of_code? {build : Build} {pipeline : Pipeline} {table : FunctTable}
    (present : build.table? pipeline = some table) {kind : CommandKind} {funct : UInt8}
    (coded : table.code? kind = some funct) (own : kind.isShared = false) :
    build.decode? table.opcode funct = some (pipeline, kind) := by
  have read := of_codes (motive := fun build pipeline table kind funct =>
    kind.isShared || build.decode? table.opcode funct == some (pipeline, kind)) (by decide)
    present coded
  simpa [own] using read

/-- On every build, the codes of a unit are read with their kind, whichever
pipeline they are attributed to. -/
theorem decode?_of_shared {build : Build} {pipeline : Pipeline} {table : FunctTable}
    (present : build.table? pipeline = some table) {kind : CommandKind} {funct : UInt8}
    (coded : table.code? kind = some funct) (shared : kind.isShared = true) :
    ∃ owner, build.decode? table.opcode funct = some (owner, kind) := by
  have read := of_codes (motive := fun build _ table kind funct =>
    !kind.isShared || (build.decode? table.opcode funct).map Prod.snd == some kind) (by decide)
    present coded
  simpa [shared] using read

/-- On every build, it is the Zstd compressor that takes a level. -/
theorem isSome_level_iff {build : Build} {pipeline : Pipeline} {table : FunctTable}
    (present : build.table? pipeline = some table) :
    table.level.isSome = true ↔ pipeline = .zstdCompress := by
  cases build <;> cases pipeline <;> simp only [table?, Option.some.injEq, reduceCtorEq] at present
  all_goals
    subst present
    decide

/-- A command that belongs to one pipeline means nothing to the others. -/
theorem own?_eq_ite {build : Build} {command : Command} {owner : Pipeline} {kind : CommandKind}
    (read : build.decode? command.opcode command.funct = some (owner, kind))
    (own : kind.isShared = false) (pipeline : Pipeline) :
    build.own? pipeline command =
      if pipeline = owner then some ⟨kind, command.rs1, command.rs2⟩ else none := by
  by_cases same : pipeline = owner
  · simp [own?, read, own, same]
  · have other : ¬ owner = pipeline := fun equal => same equal.symm
    simp [own?, read, same, other]

theorem choice?_eq_none {build : Build} {command : Command} {owner : Pipeline}
    {kind : CommandKind}
    (read : build.decode? command.opcode command.funct = some (owner, kind))
    (own : kind.isShared = false) (slot : Opcode) : build.choice? slot command = none := by
  cases kind <;> simp_all [choice?, CommandKind.isShared]

end Build

namespace Auxiliary

def fields : Auxiliary → List Arrival
  | .none => []
  | .streams literals sequences =>
    [⟨.literalsInfo, literals.address, literals.length⟩,
      ⟨.sequencesInfo, sequences.address, sequences.length⟩]
  | .workspace address => [⟨.workspaceInfo, address, 0⟩]

end Auxiliary

namespace Request

def target (request : Request) (word : UInt64) : Arrival :=
  ⟨.destInfo, request.destination.address, word⟩

/-- The fields that arrive before the last one. -/
def opening (request : Request) (word : UInt64) : List Arrival :=
  [⟨.srcInfo, request.source.address, request.source.length⟩] ++ request.auxiliary.fields ++
    (request.level.map fun _ => request.target word).toList

def closing (request : Request) (word : UInt64) : Arrival :=
  match request.level with
  | some level => ⟨.level, level.toInt64.toUInt64, 0⟩
  | none => request.target word

def job (request : Request) (pipeline : Pipeline) (word : UInt64) (tuning : Tuning) : Job where
  pipeline
  source := request.source
  auxiliary := request.auxiliary
  destination := request.destination.address
  word
  level := request.level.getD 0
  tuning

/-- The sign of a level survives its way through the operand. -/
theorem toInt32_operand (level : Int32) : level.toInt64.toUInt64.toUInt32.toInt32 = level := by
  apply Int32.toBitVec_inj.mp
  change BitVec.setWidth 32 (BitVec.signExtend 64 level.toBitVec) = level.toBitVec
  apply BitVec.eq_of_getElem_eq
  intro index bound
  simp [BitVec.getElem_setWidth, BitVec.getLsbD_signExtend, bound]
  omega

/-- No field of a request is a parameter. -/
theorem parameter?_of_mem {request : Request} {word : UInt64} {arrival : Arrival}
    (member : arrival ∈ request.opening word ∨ arrival = request.closing word) :
    arrival.kind.parameter? arrival.rs1 arrival.rs2 = none := by
  rcases request with ⟨source, auxiliary, destination, level⟩
  cases auxiliary <;> cases level <;>
    simp only [opening, closing, target, Auxiliary.fields, Option.map_some, Option.map_none,
      Option.toList_some, Option.toList_none, List.append_nil, List.nil_append,
      List.cons_append, List.mem_cons, List.not_mem_nil, or_false] at member <;>
    rcases member with (rfl | rfl | rfl | rfl) | rfl <;> rfl

/-- A request that is accepted has the form its pipeline takes. -/
theorem suits_of_check {request : Request} {channel : Channel}
    (fits : request.check channel = .ok ()) :
    request.auxiliary.suits channel.pipeline = true ∧
      request.level.isSome = channel.table.level.isSome := by
  unfold check at fits
  split at fits
  · simp at fits
  · rename_i form
    simpa using form

/-- The unit starts on the last field. -/
theorem kind_closing {request : Request} {table : FunctTable}
    (levels : request.level.isSome = table.level.isSome) (word : UInt64) :
    (request.closing word).kind = table.startTrigger := by
  unfold closing FunctTable.startTrigger
  rw [← levels]
  cases request.level <;> rfl

/-- The unit does not start on an earlier one. -/
theorem kind_opening {request : Request} {table : FunctTable}
    (levels : request.level.isSome = table.level.isSome) {word : UInt64} {arrival : Arrival}
    (member : arrival ∈ request.opening word) : arrival.kind ≠ table.startTrigger := by
  unfold FunctTable.startTrigger
  rw [← levels]
  rcases request with ⟨source, auxiliary, destination, level⟩
  cases auxiliary <;> cases level <;>
    simp only [opening, target, Auxiliary.fields, Option.map_some, Option.map_none,
      Option.toList_some, Option.toList_none, List.append_nil, List.nil_append,
      List.cons_append, List.mem_cons, List.not_mem_nil, or_false] at member <;>
    rcases member with rfl | rfl | rfl | rfl <;> simp

end Request

namespace Channel

variable {channel : Channel}

/-- Whatever was staged before, the fields of a request make its job. -/
theorem job?_of_request {request : Request} (fits : request.check channel = .ok ())
    (word : UInt64) (staging : Staging) (tuning : Tuning) :
    ((request.opening word ++ [request.closing word]).foldl Staging.add staging).job?
        channel.pipeline tuning =
      some (request.job channel.pipeline word tuning) := by
  rcases Request.suits_of_check fits with ⟨suits, levels⟩
  have leveled := Build.isSome_level_iff channel.present
  rw [← levels] at leveled
  rcases request with ⟨source, auxiliary, destination, level⟩
  cases owner : channel.pipeline <;> cases auxiliary <;>
    simp only [Auxiliary.suits, owner, reduceCtorEq] at suits <;>
    cases level <;>
    simp [owner] at leveled <;>
    simp [Request.opening, Request.closing, Request.target, Request.job, Auxiliary.fields,
      Staging.add, Staging.stage, Staging.job?, Staging.auxiliary?, Staging.level?,
      Request.toInt32_operand]

/-- The pipeline of the channel receives the command as this arrival, and to
every other pipeline it means nothing. -/
structure Carries (channel : Channel) (command : Command) (arrival : Arrival) : Prop where
  own : ∀ pipeline, channel.build.own? pipeline command =
    if pipeline = channel.pipeline then some arrival else none
  unchosen : ∀ slot, channel.build.choice? slot command = none

/-- The commands set the unit to the codec of the pipeline if the unit hosts
several, and do nothing else. -/
structure Selects (channel : Channel) (commands : List Command) : Prop where
  foreign : ∀ command ∈ commands, ∀ pipeline, channel.build.own? pipeline command = none
  choices : ∀ slot, channel.build.choices slot commands =
    if slot = channel.table.opcode ∧ channel.table.selectAlgorithm.isSome then
      [channel.pipeline.algorithm] else []

theorem code?_of_code {kind : CommandKind} {funct : UInt8} (has : channel.code kind = .ok funct) :
    channel.table.code? kind = some funct := by
  unfold code at has
  split at has
  · rename_i coded
    rw [coded, Except.ok.inj has]
  · simp at has

theorem carries_of_code? {kind : CommandKind} (command : Command)
    (coded : channel.table.code? kind = some command.funct) (own : kind.isShared = false)
    (placed : command.opcode = channel.table.opcode) :
    channel.Carries command ⟨kind, command.rs1, command.rs2⟩ := by
  have read := Build.decode?_of_code? channel.present coded own
  rw [← placed] at read
  exact ⟨Build.own?_eq_ite read own, Build.choice?_eq_none read own⟩

theorem carries_source (channel : Channel) (buffer : Buffer) :
    channel.Carries (channel.source buffer) ⟨.srcInfo, buffer.address, buffer.length⟩ :=
  carries_of_code? (channel.source buffer) rfl rfl rfl

theorem carries_destination (channel : Channel) (address word : UInt64) :
    channel.Carries (channel.destination address word) ⟨.destInfo, address, word⟩ :=
  carries_of_code? (channel.destination address word) rfl rfl rfl

theorem carries_level {level : Int32} {command : Command}
    (sent : channel.level level = .ok command) :
    channel.Carries command ⟨.level, level.toInt64.toUInt64, 0⟩ := by
  rcases bind_eq_ok_iff.mp sent with ⟨funct, has, made⟩
  cases made
  exact carries_of_code? _ (code?_of_code has) rfl rfl

theorem carries_scratch {slot : ScratchSlot} {buffer : Buffer} {command : Command}
    (sent : channel.scratch slot buffer = .ok command) :
    channel.Carries command
      ⟨slot.kind, buffer.address, if slot = .workspace then 0 else buffer.length⟩ := by
  rcases bind_eq_ok_iff.mp sent with ⟨funct, has, made⟩
  cases made
  cases slot <;> exact carries_of_code? _ (code?_of_code has) rfl rfl

theorem carries_auxiliaryCommands {auxiliary : Auxiliary} {commands : List Command}
    (sent : commands.map .ok = channel.auxiliaryCommands auxiliary) :
    List.Forall₂ channel.Carries commands auxiliary.fields := by
  cases auxiliary with
  | none =>
      cases List.map_eq_nil_iff.mp sent
      exact .nil
  | streams literals sequences =>
      rcases List.map_eq_cons_iff.mp sent with ⟨first, _, rfl, sentFirst, sent⟩
      rcases List.map_eq_singleton_iff.mp sent with ⟨second, rfl, sentSecond⟩
      exact .cons (carries_scratch sentFirst.symm) (.cons (carries_scratch sentSecond.symm) .nil)
  | workspace address =>
      rcases List.map_eq_singleton_iff.mp sent with ⟨only, rfl, sentOnly⟩
      exact .cons (carries_scratch sentOnly.symm) .nil

theorem selects_push {command : Command}
    (needed : channel.table.selectAlgorithm.isSome = true)
    (sent : channel.push (.algorithm channel.pipeline.algorithm) = .ok command) :
    channel.Selects [command] := by
  rcases bind_eq_ok_iff.mp sent with ⟨funct, has, made⟩
  cases made
  rcases Build.decode?_of_shared channel.present (code?_of_code has) rfl with ⟨owner, read⟩
  change channel.build.decode? channel.table.opcode funct = some (owner, .selectAlgorithm) at read
  constructor
  · intro command member pipeline
    rw [List.mem_singleton.mp member]
    simp [Build.own?, Command.single, Command.bare, read, CommandKind.isShared]
  · intro slot
    rw [Build.choices_singleton]
    by_cases same : slot = channel.table.opcode
    · simp [Build.choice?, Command.single, Command.bare, read, same, needed,
        Algorithm.ofId?_id]
    · have other : ¬ channel.table.opcode = slot := fun equal => same equal.symm
      simp [Build.choice?, Command.single, Command.bare, read, same, other]

theorem selects_nil (needless : ¬ channel.table.selectAlgorithm.isSome = true) :
    channel.Selects [] :=
  ⟨by simp, fun slot => by simp [Build.choices, needless]⟩

/-- The commands of a request: the choice of the codec, the fields before the
last one, and the field that starts the unit. -/
structure Spells (channel : Channel) (request : Request) (word : UInt64)
    (selects fields : List Command) (last : Command) : Prop where
  selects : channel.Selects selects
  opening : List.Forall₂ channel.Carries fields (request.opening word)
  closing : channel.Carries last (request.closing word)

theorem exists_spells {request : Request} {word : UInt64} {commands : List Command}
    (sent : channel.commands request word = .ok commands) :
    ∃ selects fields last, commands = selects ++ fields ++ [last] ∧
      channel.Spells request word selects fields last := by
  rcases List.append_eq_map_iff.mp (commands_eq_ok_iff.mp sent) with
    ⟨_, levels, rfl, sent, sentLevels⟩
  rcases List.map_eq_append_iff.mp sent with ⟨_, targets, rfl, sent, sentTarget⟩
  rcases List.map_eq_append_iff.mp sent with ⟨_, auxiliary, rfl, sent, sentAuxiliary⟩
  rcases List.map_eq_append_iff.mp sent with ⟨selects, sources, rfl, sentSelects, sentSource⟩
  rcases List.map_eq_singleton_iff.mp sentTarget with ⟨_, rfl, ⟨⟩⟩
  rcases List.map_eq_singleton_iff.mp sentSource with ⟨_, rfl, ⟨⟩⟩
  have chosen : channel.Selects selects := by
    split at sentSelects
    · rename_i needed
      rcases List.map_eq_singleton_iff.mp sentSelects with ⟨command, rfl, pushed⟩
      exact selects_push needed pushed.symm
    · rename_i needless
      cases List.map_eq_nil_iff.mp sentSelects
      exact selects_nil needless
  have source := channel.carries_source request.source
  have buffers := carries_auxiliaryCommands sentAuxiliary
  have target := channel.carries_destination request.destination.address word
  have opening : List.Forall₂ channel.Carries ([channel.source request.source] ++ auxiliary)
      ([⟨.srcInfo, request.source.address, request.source.length⟩] ++ request.auxiliary.fields) :=
    List.rel_append (.cons source .nil) buffers
  cases given : request.level with
  | none =>
      rw [given] at sentLevels
      cases List.map_eq_nil_iff.mp sentLevels
      refine ⟨selects, [channel.source request.source] ++ auxiliary,
        channel.destination request.destination.address word, by simp, chosen, ?_, ?_⟩
      · simpa [Request.opening, given] using opening
      · rw [Request.closing, given]
        exact target
  | some level =>
      rw [given] at sentLevels
      rcases List.map_eq_singleton_iff.mp sentLevels with ⟨command, rfl, leveled⟩
      refine ⟨selects, [channel.source request.source] ++ auxiliary ++
        [channel.destination request.destination.address word], command, by simp, chosen, ?_, ?_⟩
      · simp only [Request.opening, given, Option.map_some, Option.toList_some]
        exact List.rel_append opening (.cons target .nil)
      · simpa [Request.closing, given] using carries_level leveled.symm

/-- A request that is accepted is never refused by a missing code. -/
theorem exists_commands {request : Request} (fits : request.check channel = .ok ())
    (word : UInt64) : ∃ sequence, channel.commands request word = .ok sequence := by
  rcases Request.suits_of_check fits with ⟨suits, levels⟩
  rcases channel with ⟨build, pipeline, table, present⟩
  rcases request with ⟨source, auxiliary, destination, level⟩
  cases build <;> cases pipeline <;>
    simp only [Build.table?, Option.some.injEq, reduceCtorEq] at present
  all_goals
    subst present
    cases auxiliary <;> cases suits
    cases level <;> cases levels
    exact ⟨_, rfl⟩

/-- No command is refused once the check has passed, so a refusal leaves everything as it was. -/
theorem dispatch_of_error {υ : Type} [Accelerator υ] {request : Request} {word : UInt64}
    {fault : Fault} {machine after : Machine υ}
    (refused : channel.dispatch request word machine = (.error fault, after)) :
    request.check channel = .error fault ∧ after = machine := by
  cases checked : request.check channel with
  | error found =>
      rw [dispatch, checked] at refused
      cases refused
      exact ⟨rfl, rfl⟩
  | ok granted =>
      rcases exists_commands checked word with ⟨sequence, sent⟩
      have accepted : channel.dispatch request word machine =
          (.ok (), (machine.store word 0).issueAll sequence) :=
        dispatch_eq_ok_iff.mpr ⟨checked, sequence, sent, rfl⟩
      rw [refused] at accepted
      cases accepted

theorem arrivals_of_carries {commands : List Command} {fields : List Arrival}
    (carried : List.Forall₂ channel.Carries commands fields) (pipeline : Pipeline) :
    channel.build.arrivals pipeline commands =
      if pipeline = channel.pipeline then fields else [] := by
  induction carried with
  | nil => simp [Build.arrivals]
  | cons first rest hypothesis =>
      rw [Build.arrivals, List.filterMap_cons, first.own pipeline]
      by_cases same : pipeline = channel.pipeline
      · simpa [same, Build.arrivals] using hypothesis
      · simpa [same, Build.arrivals] using hypothesis

theorem choices_of_carries {commands : List Command} {fields : List Arrival}
    (carried : List.Forall₂ channel.Carries commands fields) (slot : Opcode) :
    channel.build.choices slot commands = [] := by
  induction carried with
  | nil => rfl
  | cons first rest hypothesis =>
      rw [Build.choices, List.filterMap_cons, first.unchosen slot]
      exact hypothesis

namespace Spells

variable {request : Request} {word : UInt64} {selects fields : List Command} {last : Command}

/-- What arrives before the last command is the opening of the request, and it
arrives at the pipeline of the channel only. -/
theorem arrivals (spells : channel.Spells request word selects fields last)
    (pipeline : Pipeline) :
    channel.build.arrivals pipeline (selects ++ fields) =
      if pipeline = channel.pipeline then request.opening word else [] := by
  have foreign : channel.build.arrivals pipeline selects = [] :=
    List.filterMap_eq_nil_iff.mpr fun command member =>
      spells.selects.foreign command member pipeline
  rw [Build.arrivals_append, foreign, arrivals_of_carries spells.opening, List.nil_append]

theorem choices (spells : channel.Spells request word selects fields last) (slot : Opcode) :
    channel.build.choices slot (selects ++ fields) =
      if slot = channel.table.opcode ∧ channel.table.selectAlgorithm.isSome then
        [channel.pipeline.algorithm] else [] := by
  rw [Build.choices_append, choices_of_carries spells.opening, List.append_nil,
    spells.selects.choices]

/-- The whole request arrives at the pipeline of the channel only. -/
theorem arrivals_closing (spells : channel.Spells request word selects fields last)
    (pipeline : Pipeline) :
    channel.build.arrivals pipeline (selects ++ fields ++ [last]) =
      if pipeline = channel.pipeline then request.opening word ++ [request.closing word]
      else [] := by
  rw [Build.arrivals_append, spells.arrivals, Build.arrivals_singleton, spells.closing.own]
  by_cases same : pipeline = channel.pipeline <;> simp [same]

theorem choices_closing (spells : channel.Spells request word selects fields last)
    (slot : Opcode) :
    channel.build.choices slot (selects ++ fields ++ [last]) =
      if slot = channel.table.opcode ∧ channel.table.selectAlgorithm.isSome then
        [channel.pipeline.algorithm] else [] := by
  rw [Build.choices_append, spells.choices, Build.choices_singleton, spells.closing.unchosen,
    Option.toList_none, List.append_nil]

/-- Nothing is started before the last command. -/
theorem start?_eq_none (spells : channel.Spells request word selects fields last)
    (fits : request.check channel = .ok ()) {command : Command}
    (member : command ∈ selects ++ fields) (pipeline : Pipeline) :
    channel.build.start? pipeline command = none := by
  rw [Build.start?, Option.filter_eq_none_iff]
  intro arrival own starts
  have arrives : arrival ∈ channel.build.arrivals pipeline (selects ++ fields) :=
    List.mem_filterMap.mpr ⟨command, member, own⟩
  rw [spells.arrivals] at arrives
  by_cases same : pipeline = channel.pipeline
  · subst pipeline
    rw [if_pos rfl] at arrives
    simp only [Build.trigger?, channel.present, Option.map_some, Option.some.injEq,
      decide_eq_true_eq] at starts
    exact Request.kind_opening (Request.suits_of_check fits).2 arrives starts
  · simp [same] at arrives

end Spells

end Channel

/-- Fields that do not start the pipeline are all kept. -/
theorem Staging.foldl_receive_of_ne {trigger : Option CommandKind} {arrivals : List Arrival}
    (later : ∀ arrival ∈ arrivals, some arrival.kind ≠ trigger) (staging : Staging) :
    arrivals.foldl (receive trigger) staging = arrivals.foldl add staging := by
  induction arrivals generalizing staging with
  | nil => rfl
  | cons first rest hypothesis =>
      have here := later first List.mem_cons_self
      simp only [List.foldl_cons, receive, here, if_false]
      exact hypothesis (fun arrival member => later arrival (List.mem_cons_of_mem _ member)) _

/-- Arrivals that push nothing leave the parameters as they are. -/
theorem Tuning.foldl_receive_of_parameter? {arrivals : List Arrival}
    (none : ∀ arrival ∈ arrivals, arrival.kind.parameter? arrival.rs1 arrival.rs2 = none)
    (tuning : Tuning) : arrivals.foldl receive tuning = tuning := by
  induction arrivals with
  | nil => rfl
  | cons first rest hypothesis =>
      have here := none first List.mem_cons_self
      simp only [List.foldl_cons, receive, here]
      exact hypothesis fun arrival member => none arrival (List.mem_cons_of_mem _ member)

theorem Device.outcome_of_start? {device : Device} {command : Command}
    (idle : ∀ pipeline, device.build.start? pipeline command = none) :
    device.outcome command = .quiet := by
  apply outcome_eq_quiet
  intro pipeline arrival own starts
  have absent := idle pipeline
  rw [Build.start?, own, Option.filter_eq_none_iff] at absent
  exact absent arrival rfl (decide_eq_true starts)

namespace Simulated.Run

variable {first last : Simulated} {trace : List (Command × Outcome)}

/-- A command that starts no pipeline has left nothing but a quiet outcome. -/
theorem quiet_of_mem (run : Run first trace last) {command : Command} {outcome : Outcome}
    (member : (command, outcome) ∈ trace)
    (idle : ∀ pipeline, first.device.build.start? pipeline command = none) :
    outcome = .quiet := by
  induction run with
  | start => simp at member
  | @command trace last run memory issued hypothesis =>
      rcases List.mem_append.mp member with earlier | latest
      · exact hypothesis earlier
      · cases List.mem_singleton.mp latest
        apply Device.outcome_of_start?
        rw [run.build]
        exact idle
  | pause run memory pause hypothesis => exact hypothesis member

/-- Such commands among those of a run have left quiet entries. -/
theorem eq_quiet_of_subset (run : Run first trace last) {entries : List (Command × Outcome)}
    (listed : entries ⊆ trace)
    (idle : ∀ command ∈ commands entries, ∀ pipeline,
      first.device.build.start? pipeline command = none) :
    entries = (commands entries).map fun command => (command, .quiet) := by
  induction entries with
  | nil => rfl
  | cons entry rest hypothesis =>
      rcases entry with ⟨command, outcome⟩
      have quiet := run.quiet_of_mem (listed List.mem_cons_self) (idle command List.mem_cons_self)
      have later := hypothesis (fun entry member => listed (List.mem_cons_of_mem _ member))
        fun command member => idle command (List.mem_cons_of_mem _ member)
      rw [quiet]
      exact congrArg (List.cons (command, Outcome.quiet)) later

/-- When the last field of a request arrives after the others, the request is
started, unless the unit is set to another codec. -/
theorem outcome_of_closing (run : Run first trace last) {channel : Channel}
    (built : first.device.build = channel.build) {request : Request} {word : UInt64}
    (fits : request.check channel = .ok ())
    (opened : channel.build.arrivals channel.pipeline (commands trace) = request.opening word)
    {closing : Command} (closes : channel.Carries closing (request.closing word)) :
    last.device.outcome closing =
      if channel.table.selectAlgorithm.isNone ∨
          (channel.build.choices channel.table.opcode (commands trace)).getLast?.or
            (first.device.selected.get channel.table.opcode) =
              some channel.pipeline.algorithm then
        .started (request.job channel.pipeline word (first.device.tuning.get channel.pipeline))
      else .stalled := by
  have levels := (Request.suits_of_check fits).2
  have present : last.device.build.table? channel.pipeline = some channel.table := by
    rw [run.build, built]
    exact channel.present
  have own : last.device.build.own? channel.pipeline closing = some (request.closing word) := by
    rw [run.build, built, closes.own, if_pos rfl]
  have staged := run.staging channel.pipeline
  have latched := run.tuning channel.pipeline
  have chosen := run.selected channel.table.opcode
  rw [built, opened, Build.trigger?, channel.present, Option.map_some,
    Staging.foldl_receive_of_ne (by
      intro arrival member
      simpa using Request.kind_opening levels member)] at staged
  rw [built, opened, Tuning.foldl_receive_of_parameter? fun arrival member =>
    Request.parameter?_of_mem (Or.inl member)] at latched
  rw [built] at chosen
  rw [Device.outcome_of_trigger present own (Request.kind_closing levels word)]
  have made := Channel.job?_of_request fits word (first.device.staging.get channel.pipeline)
    (first.device.tuning.get channel.pipeline)
  rw [List.foldl_append, ← staged, ← latched] at made
  simp only [List.foldl_cons, List.foldl_nil, Staging.add] at made
  unfold Device.startOutcome Device.ready? Device.isSelected
  simp only [Device.stage, PerPipeline.get_modify, if_true, chosen, Bool.or_eq_true, beq_iff_eq]
  by_cases selected : channel.table.selectAlgorithm.isNone ∨
      (channel.build.choices channel.table.opcode (commands trace)).getLast?.or
        (first.device.selected.get channel.table.opcode) = some channel.pipeline.algorithm
  · rw [if_pos selected, if_pos selected, made, latched]
  · rw [if_neg selected, if_neg selected]

end Simulated.Run

namespace Channel

/-- The last command of a request starts it, whatever the unit held before. -/
theorem Spells.outcome_closing {channel : Channel} {request : Request} {word : UInt64}
    {selects fields : List Command} {closing : Command}
    (spells : channel.Spells request word selects fields closing)
    (fits : request.check channel = .ok ()) {machine : Machine Simulated}
    (built : machine.unit.device.build = channel.build) :
    ((machine.store word 0).issueAll (selects ++ fields)).unit.device.outcome closing =
      .started (request.job channel.pipeline word
        (machine.unit.device.tuning.get channel.pipeline)) := by
  rcases (machine.store word 0).run_issueAll (selects ++ fields) with ⟨trace, run, same⟩
  change Simulated.Run machine.unit trace _ at run
  have opened := spells.arrivals channel.pipeline
  rw [if_pos rfl] at opened
  have outcome := run.outcome_of_closing built fits (by rw [same, opened]) spells.closing
  rw [same, spells.choices] at outcome
  rw [outcome, if_pos]
  cases channel.table.selectAlgorithm <;> simp

/-- The run of a whole request: quiet commands, and a start at the last one. -/
theorem Spells.run_issueAll {channel : Channel} {request : Request} {word : UInt64}
    {selects fields : List Command} {closing : Command}
    (spells : channel.Spells request word selects fields closing)
    (fits : request.check channel = .ok ()) {machine : Machine Simulated}
    (built : machine.unit.device.build = channel.build) :
    Simulated.Run machine.unit
      ((selects ++ fields).map (fun command => (command, Outcome.quiet)) ++
        [(closing, .started (request.job channel.pipeline word
          (machine.unit.device.tuning.get channel.pipeline)))])
      ((machine.store word 0).issueAll (selects ++ fields ++ [closing])).unit := by
  rcases Machine.run_issueAll (machine.store word 0) (selects ++ fields) with ⟨trace, run, same⟩
  change Simulated.Run machine.unit trace _ at run
  have quiet := run.eq_quiet_of_subset (List.Subset.refl trace) (by
    rw [same, built]
    intro command member pipeline
    exact spells.start?_eq_none fits member pipeline)
  rw [quiet, same] at run
  rw [Machine.issueAll_append, ← spells.outcome_closing fits built]
  exact (run.command _ closing).pause _ .command

theorem outcome_of_commands {channel : Channel} {request : Request} {word : UInt64}
    {before : List Command} {closing : Command}
    (made : channel.commands request word = .ok (before ++ [closing]))
    (fits : request.check channel = .ok ()) {machine : Machine Simulated}
    (built : machine.unit.device.build = channel.build) :
    ((machine.store word 0).issueAll before).unit.device.outcome closing =
      .started (request.job channel.pipeline word
        (machine.unit.device.tuning.get channel.pipeline)) := by
  rcases exists_spells made with ⟨selects, fields, last, parts, spells⟩
  rcases List.append_inj' parts rfl with ⟨rfl, ends⟩
  cases ends
  exact spells.outcome_closing fits built

/-- A request that is accepted is what its unit starts.  Whatever the unit has
staged, latched and selected before, the last command of the request starts one
job and no earlier command starts any; the job is the request with the
parameters latched at that moment.  The staged fields of the pipeline are then
used up, and apart from the codec of its unit nothing else has changed. -/
theorem dispatch_starts {channel : Channel} {request : Request} {word : UInt64}
    {machine after : Machine Simulated} (built : machine.unit.device.build = channel.build)
    (accepted : channel.dispatch request word machine = (.ok (), after)) :
    ∃ before closing, channel.commands request word = .ok (before ++ [closing]) ∧
      after = (machine.store word 0).issueAll (before ++ [closing]) ∧
      Simulated.Run machine.unit
        (before.map (fun command => (command, .quiet)) ++
          [(closing, .started (request.job channel.pipeline word
            (machine.unit.device.tuning.get channel.pipeline)))])
        after.unit ∧
      (∀ pipeline, after.unit.device.staging.get pipeline =
        if pipeline = channel.pipeline then .empty
        else machine.unit.device.staging.get pipeline) ∧
      after.unit.device.tuning = machine.unit.device.tuning ∧
      ∀ slot, after.unit.device.selected.get slot =
        if slot = channel.table.opcode ∧ channel.table.selectAlgorithm.isSome then
          some channel.pipeline.algorithm
        else machine.unit.device.selected.get slot := by
  rcases dispatch_eq_ok_iff.mp accepted with ⟨fits, sequence, sent, rfl⟩
  rcases exists_spells sent with ⟨selects, fields, closing, rfl, spells⟩
  have levels := (Request.suits_of_check fits).2
  have whole := spells.run_issueAll fits built
  have commands : Simulated.Run.commands
      ((selects ++ fields).map (fun command => (command, Outcome.quiet)) ++
        [(closing, .started (request.job channel.pipeline word
          (machine.unit.device.tuning.get channel.pipeline)))]) = selects ++ fields ++ [closing] := by
    simp [Simulated.Run.commands, Function.comp_def]
  have staged := whole.staging
  have latched := whole.tuning
  have chosen := whole.selected
  simp only [commands, built, spells.arrivals_closing, spells.choices_closing]
    at staged latched chosen
  refine ⟨selects ++ fields, closing, sent, rfl, whole, ?_, ?_, ?_⟩
  · intro pipeline
    refine (staged pipeline).trans ?_
    by_cases own : pipeline = channel.pipeline
    · subst pipeline
      simp [Staging.receive, Build.trigger?, channel.present, Request.kind_closing levels word]
    · simp [own]
  · apply PerPipeline.ext_get
    intro pipeline
    refine (latched pipeline).trans ?_
    by_cases own : pipeline = channel.pipeline
    · rw [if_pos own, Tuning.foldl_receive_of_parameter?]
      intro arrival member
      apply Request.parameter?_of_mem
      simpa using member
    · simp [own]
  · intro slot
    refine (chosen slot).trans ?_
    by_cases own : slot = channel.table.opcode ∧ channel.table.selectAlgorithm.isSome = true
    · rw [if_pos own, if_pos own]
      rfl
    · rw [if_neg own, if_neg own]
      rfl

/-- A Snappy request on a unit with two codecs: the choice of the codec, the
source and the destination, which starts it. -/
theorem dispatch_starts_snappy :
    ∃ after : Machine Simulated,
      Simulated.Run (.powerOn .decompressor .inline)
        [(.single .custom2 1 1, .quiet), (.pair .custom2 7 16 3, .quiet),
          (.pair .custom2 8 64 128, .started
            ⟨.snappyDecompress, ⟨16, 3⟩, .none, 64, 128, 0, .powerOn⟩)] after.unit ∧
      after.unit.device.staging.get .snappyDecompress = .empty := by
  have accepted : Channel.dispatch
      ⟨.decompressor, .snappyDecompress, Build.decompressorSnappyDecompress, rfl⟩
      ⟨⟨16, 3⟩, .none, ⟨64, 8⟩, none⟩ 128
      (Machine.start (Simulated.powerOn .decompressor .inline)) = (.ok (), _) := rfl
  rcases dispatch_starts rfl accepted with ⟨before, closing, sent, _, run, staged, _⟩
  refine ⟨_, ?_, staged .snappyDecompress⟩
  have sequence : [Command.single .custom2 1 1, .pair .custom2 7 16 3] ++
      [.pair .custom2 8 64 128] = before ++ [closing] := Except.ok.inj sent
  rcases List.append_inj' sequence rfl with ⟨rfl, last⟩
  cases last
  exact run

end Channel

end RoccCodec
