import RoccCodec.Device.Traced
import RoccCodec.Proofs.Device.Dispatch

namespace RoccCodec

/-!
# Requests that are sent whole or not at all

A request leaves command by command, and each of them can be refused because the
pipeline lacks the code for it.  A refusal after the first command would leave
half a request with the unit, and a completion word that was cleared for
nothing.

The check in front looks at the form of the request only and not at the codes.
That it is enough is a fact about the tables of all builds: for a request of the
right form, no command is refused.  So `Channel.dispatch_whole_or_nothing` says
for every request, every accelerator and every state of it which of the two
happens, and what is sent.
-/

/-- The operands that a field of the protocol takes. -/
inductive Operands where
  | one (first : UInt64)
  | two (first second : UInt64)
  deriving DecidableEq, Repr

/-- A field of the protocol as a channel sends it. -/
structure Departure where
  kind : CommandKind
  operands : Operands
  deriving DecidableEq, Repr

def Departure.command (departure : Departure) (opcode : Opcode) (funct : UInt8) : Command :=
  match departure.operands with
  | .one first => .single opcode funct first
  | .two first second => .pair opcode funct first second

def Auxiliary.departures : Auxiliary → List Departure
  | .none => []
  | .streams literals sequences =>
    [⟨.literalsInfo, .two literals.address literals.length⟩,
      ⟨.sequencesInfo, .two sequences.address sequences.length⟩]
  | .workspace address => [⟨.workspaceInfo, .one address⟩]

namespace Request

/-- The fields before the destination. -/
def preamble (request : Request) (channel : Channel) : List Departure :=
  (if channel.table.selectAlgorithm.isSome then
      [⟨.selectAlgorithm, .one channel.pipeline.algorithm.id⟩]
    else []) ++
    [⟨.srcInfo, .two request.source.address request.source.length⟩] ++
    request.auxiliary.departures

/-- The fields of a request in the order of the protocol. -/
def departures (request : Request) (channel : Channel) (word : UInt64) : List Departure :=
  request.preamble channel ++ [⟨.destInfo, .two request.destination.address word⟩] ++
    (request.level.map fun level => ⟨.level, .one level.toInt64.toUInt64⟩).toList

theorem kind_of_mem_preamble {request : Request} {channel : Channel} {departure : Departure}
    (member : departure ∈ request.preamble channel) :
    departure.kind ≠ .destInfo ∧ departure.kind ≠ .level := by
  rw [preamble, List.append_assoc, List.mem_append] at member
  rcases member with chosen | member
  · split at chosen
    · cases List.mem_singleton.mp chosen
      simp
    · simp at chosen
  · rcases request with ⟨source, auxiliary, destination, level⟩
    cases auxiliary <;>
      simp only [Auxiliary.departures, List.append_nil, List.cons_append, List.nil_append,
        List.mem_cons, List.not_mem_nil, or_false] at member <;>
      rcases member with rfl | rfl | rfl <;> simp

end Request

namespace Machine

variable {υ : Type} [Accelerator υ]

/-- A trace keeps all that is issued. -/
theorem commands_issueAll (machine : Machine (Traced υ)) (commands : List Command) :
    (machine.issueAll commands).unit.commands = machine.unit.commands ++ commands := by
  induction commands generalizing machine with
  | nil => exact (List.append_nil _).symm
  | cons command rest hypothesis =>
      have first : (machine.issue command).2.unit.commands = machine.unit.commands ++ [command] := rfl
      rw [issueAll_cons, hypothesis, first, List.append_assoc]
      rfl

end Machine

/-- On every build, the kind of a code is the one it was assigned to. -/
theorem Build.kindOf?_of_code? {build : Build} {pipeline : Pipeline} {table : FunctTable}
    (present : build.table? pipeline = some table) {kind : CommandKind} {funct : UInt8}
    (coded : table.code? kind = some funct) : table.kindOf? funct = some kind :=
  (FunctTable.kindOf?_eq_some_iff_of_distinct (distinct present)).mpr coded

namespace Channel

variable {υ : Type} [Accelerator υ] {channel : Channel} {request : Request} {word : UInt64}

/-- The command for a field, or a refusal if the pipeline lacks it. -/
def utter (channel : Channel) (departure : Departure) : Except Fault Command := do
  let funct ← channel.code departure.kind
  return departure.command channel.table.opcode funct

/-- The command has the operands of the field, and its code stands for the field
and for nothing else. -/
structure Utters (channel : Channel) (command : Command) (departure : Departure) : Prop where
  formed : command = departure.command channel.table.opcode command.funct
  coded : channel.table.code? departure.kind = some command.funct
  read : channel.table.kindOf? command.funct = some departure.kind

/-- The request has the extra buffers of the pipeline, and a level exactly if
the pipeline takes one. -/
def Takes (channel : Channel) (request : Request) : Prop :=
  request.auxiliary.suits channel.pipeline = true ∧
    request.level.isSome = channel.table.level.isSome

theorem utters_of_utter {departure : Departure} {command : Command}
    (sent : channel.utter departure = .ok command) : channel.Utters command departure := by
  rcases bind_eq_ok_iff.mp sent with ⟨funct, has, made⟩
  cases made
  have coded := code?_of_code has
  have own : (departure.command channel.table.opcode funct).funct = funct := by
    unfold Departure.command
    cases departure.operands <;> rfl
  refine ⟨?_, ?_, ?_⟩ <;> rw [own]
  · exact coded
  · exact Build.kindOf?_of_code? channel.present coded

/-! ## The check -/

theorem check_of_not_takes (other : ¬ channel.Takes request) :
    request.check channel = .error (.requestMismatch channel.pipeline) := by
  unfold Request.check
  rw [if_pos]
  by_contra fits
  exact other (by simpa [Takes] using fits)

theorem check_of_takes (takes : channel.Takes request) :
    request.check channel =
      if request.source.overlaps request.destination then .error .overlap else .ok () := by
  unfold Request.check
  rw [if_neg]
  simp [takes.1, takes.2]

/-! ## The commands -/

/-- The tables of all builds have a code for every field of a request of the
right form. -/
theorem exists_uttered (takes : channel.Takes request) (word : UInt64) :
    ∃ sequence, channel.commands request word = .ok sequence ∧
      (request.departures channel word).map channel.utter = sequence.map .ok := by
  rcases takes with ⟨suits, levels⟩
  rcases channel with ⟨build, pipeline, table, present⟩
  rcases request with ⟨source, auxiliary, destination, level⟩
  cases build <;> cases pipeline <;>
    simp only [Build.table?, Option.some.injEq, reduceCtorEq] at present
  all_goals
    subst present
    cases auxiliary <;> cases suits
    cases level <;> cases levels
    exact ⟨_, rfl, rfl⟩

/-- The last field starts the unit, and no field before it does. -/
theorem kinds_departures (takes : channel.Takes request) (word : UInt64) :
    ∃ kinds, (request.departures channel word).map Departure.kind =
        kinds ++ [channel.table.startTrigger] ∧ channel.table.startTrigger ∉ kinds := by
  unfold FunctTable.startTrigger Request.departures
  rw [← takes.2]
  cases request.level with
  | none =>
      refine ⟨(request.preamble channel).map Departure.kind, by simp, ?_⟩
      rintro starts
      rcases List.mem_map.mp starts with ⟨departure, member, kind⟩
      exact (Request.kind_of_mem_preamble member).1 kind
  | some level =>
      refine ⟨(request.preamble channel).map Departure.kind ++ [.destInfo], by simp, ?_⟩
      rw [List.mem_append]
      rintro (starts | starts)
      · rcases List.mem_map.mp starts with ⟨departure, member, kind⟩
        exact (Request.kind_of_mem_preamble member).2 kind
      · simp at starts

/-- What the pipeline reads in the commands is what was to be sent. -/
theorem kinds_of_utters {sequence : List Command} {departures : List Departure}
    (uttered : List.Forall₂ channel.Utters sequence departures) :
    sequence.map (fun command => channel.table.kindOf? command.funct) =
      (departures.map Departure.kind).map some := by
  induction uttered with
  | nil => rfl
  | cons first rest hypothesis => simp only [List.map_cons, first.read, hypothesis]

/-- The commands convey the fields of the request in their order, and the last
of them is the first that starts the unit. -/
structure Conveys (channel : Channel) (request : Request) (word : UInt64) (before : List Command)
    (closing : Command) : Prop where
  uttered : List.Forall₂ channel.Utters (before ++ [closing]) (request.departures channel word)
  starts : channel.table.kindOf? closing.funct = some channel.table.startTrigger
  later : ∀ command ∈ before,
    channel.table.kindOf? command.funct ≠ some channel.table.startTrigger

theorem exists_conveys (takes : channel.Takes request) (word : UInt64) :
    ∃ before closing, channel.commands request word = .ok (before ++ [closing]) ∧
      channel.Conveys request word before closing := by
  rcases exists_uttered takes word with ⟨sequence, commands, sent⟩
  have uttered : List.Forall₂ channel.Utters sequence (request.departures channel word) := by
    have each := List.forall₂_eq_eq_eq ▸ sent.symm
    rw [List.forall₂_map_left_iff, List.forall₂_map_right_iff] at each
    exact each.imp fun command departure same => utters_of_utter same.symm
  have kinds := kinds_of_utters uttered
  rcases kinds_departures takes word with ⟨earlier, ends, absent⟩
  rw [ends, List.map_append, List.map_eq_append_iff] at kinds
  rcases kinds with ⟨before, last, rfl, early, late⟩
  rcases List.map_eq_singleton_iff.mp late with ⟨closing, rfl, starts⟩
  refine ⟨before, closing, commands, uttered, starts, ?_⟩
  intro command member starts
  have found : some channel.table.startTrigger ∈ earlier.map some := by
    rw [← early, ← starts]
    exact List.mem_map_of_mem member
  exact absent (by simpa using found)

/-! ## The whole request -/

/-- A request is refused if its form is not that of the pipeline, and else if its
source and its destination overlap; then nothing has been sent and the completion
word is as it was.  In every other case it is sent whole: the word is cleared
first, and the commands carry the fields of the protocol, of which the last one
starts the unit.  Sending stops at no command in between. -/
theorem dispatch_whole_or_nothing (channel : Channel) (request : Request) (word : UInt64)
    (machine : Machine (Traced υ)) :
    ((channel.dispatch request word machine).1 = .error (.requestMismatch channel.pipeline) ↔
      ¬ channel.Takes request) ∧
    ((channel.dispatch request word machine).1 = .error .overlap ↔
      channel.Takes request ∧ request.source.overlaps request.destination = true) ∧
    (∀ fault, (channel.dispatch request word machine).1 = .error fault →
      channel.dispatch request word machine = (.error fault, machine)) ∧
    (channel.Takes request → request.source.overlaps request.destination = false →
      ∃ before closing after, channel.dispatch request word machine = (.ok (), after) ∧
        after = (machine.store word 0).issueAll (before ++ [closing]) ∧
        (machine.store word 0).load word = 0 ∧
        after.unit.commands = machine.unit.commands ++ before ++ [closing] ∧
        channel.Conveys request word before closing) := by
  by_cases takes : channel.Takes request
  · have checked := check_of_takes takes
    cases overlaps : request.source.overlaps request.destination with
    | true =>
        rw [overlaps, if_pos rfl] at checked
        simp [dispatch, checked, takes]
    | false =>
        rw [overlaps, if_neg (by simp)] at checked
        rcases exists_conveys takes word with ⟨before, closing, commands, conveys⟩
        have accepted : channel.dispatch request word machine =
            (.ok (), (machine.store word 0).issueAll (before ++ [closing])) :=
          dispatch_eq_ok_iff.mpr ⟨checked, _, commands, rfl⟩
        have issued := Machine.commands_issueAll (machine.store word 0) (before ++ [closing])
        rw [← List.append_assoc] at issued
        refine ⟨by simp [accepted, takes], by simp [accepted], by simp [accepted], ?_⟩
        intro _ _
        exact ⟨before, closing, _, accepted, rfl, machine.memory.load_store word 0, issued,
          conveys⟩
  · have checked := check_of_not_takes takes
    simp [dispatch, checked, takes]

/-- A negative level fills the whole operand, and it starts the unit. -/
example : commands ⟨.compressor, .zstdCompress, Build.compressorZstdCompress, rfl⟩
    ⟨⟨0x10, 3⟩, .streams ⟨0x20, 8⟩ ⟨0x30, 8⟩, ⟨0x40, 70⟩, some (-1)⟩ 0x100 =
      .ok [.pair .custom2 1 0x10 3, .pair .custom2 2 0x20 8, .pair .custom2 3 0x30 8,
        .pair .custom2 4 0x40 0x100, .single .custom2 5 0xFFFFFFFFFFFFFFFF] := by
  decide

end Channel

end RoccCodec
