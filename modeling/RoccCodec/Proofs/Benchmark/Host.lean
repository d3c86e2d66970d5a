import RoccCodec.Proofs.Shadow

namespace RoccCodec

/-!
# A host between two requests

Between two requests a host only tells a unit how to work (`Machine.Told`), and
hands out memory.  A state of the unit that such commands do not end, and in which it
leaves memory as it is, is one that it stays in (`Machine.Stays`).  A simulated device
at rest is in such a state (`Machine.Rested`).  The memory that the host has taken for
itself lies block behind block (`Buffer.Laid`), so that no two blocks share a byte
while their addresses stay within 64 bits.
-/

namespace Device

/-- A device at rest stays there, and so does memory. -/
theorem stable_rest (codecs : Codecs) (start : Memory) :
    Stable codecs fun device memory => device.pending = 0 ∧ memory = start where
  congr := by
    rintro first second memory queue worker ⟨rest, same⟩
    unfold pending at rest ⊢
    rw [← queue, ← worker]
    exact ⟨rest, same⟩
  step := by
    rintro device memory ⟨rest, same⟩
    rw [step_of_pending_eq_zero codecs rest]
    exact ⟨rest, same⟩

end Device

namespace Machine

/-- The device is of this build and has nothing left to do, and a wait leaves it
the time for a request. -/
structure Rested (codecs : Codecs) (build : Build) (machine : Machine Simulated) : Prop where
  build : machine.unit.device.build = build
  codecs : machine.unit.codecs = codecs
  serves : machine.unit.mode.Serves 3
  rest : machine.unit.device.pending = 0

variable {codecs : Codecs} {build : Build} {first last : Machine Simulated}

/-- Only the device counts. -/
theorem Rested.of_unit (rested : first.Rested codecs build) (same : last.unit = first.unit) :
    last.Rested codecs build := by
  rcases rested with ⟨built, equipped, serves, rest⟩
  rw [← same] at built equipped serves rest
  exact ⟨built, equipped, serves, rest⟩

theorem Rested.idles (rested : first.Rested codecs build) (idles : first.Idles last) :
    last.Rested codecs build ∧ last.memory = first.memory := by
  have still := idles.keeps (Device.stable_rest _ first.memory) ⟨rested.rest, rfl⟩
  refine ⟨⟨idles.build.trans rested.build, idles.codecs.trans rested.codecs, ?_, still.1⟩, still.2⟩
  rw [idles.mode]
  exact rested.serves

end Machine

/-! ## Parameters and fences -/

namespace Channel

variable {channel : Channel} {parameter : Parameter} {command : Command}

theorem start?_of_shared (kind : CommandKind) (command : Command)
    (coded : channel.table.code? kind = some command.funct)
    (placed : command.opcode = channel.table.opcode) (shared : kind.isShared = true)
    (pipeline : Pipeline) : channel.build.start? pipeline command = none := by
  rw [Build.start?, own?_of_shared kind command coded placed shared]
  rfl

/-- A parameter starts nothing. -/
theorem start?_push (sent : channel.push parameter = .ok command) (pipeline : Pipeline) :
    channel.build.start? pipeline command = none := by
  by_cases choice : parameter.kind = .selectAlgorithm
  · cases parameter with
    | algorithm algorithm =>
        rcases bind_eq_ok_iff.mp sent with ⟨funct, has, made⟩
        cases made
        exact start?_of_shared .selectAlgorithm _ (code?_of_code has) rfl rfl pipeline
    | history bytes => cases choice
    | hashTableLog2 log2 => cases choice
    | latency latency => cases choice
  · rw [Build.start?, Option.filter_eq_none_iff]
    intro arrival own starts
    rw [(parameter?_push choice sent).1.own] at own
    rcases Option.ite_none_right_eq_some.mp own with ⟨rfl, same⟩
    cases same
    simp only [Build.trigger?, channel.present, Option.map_some, Option.some.injEq,
      decide_eq_true_eq] at starts
    rcases channel.table.startTrigger_eq with trigger | trigger <;> rw [trigger] at starts <;>
      cases parameter <;> cases starts

/-- What tells a unit how to work: a fence, and the parameters. -/
inductive Tells (channel : Channel) : Command → Prop
  | fence : channel.Tells channel.fence
  | push {parameter : Parameter} {command : Command} (sent : channel.push parameter = .ok command) :
    channel.Tells command

theorem Tells.start?_eq_none (tells : channel.Tells command) (pipeline : Pipeline) :
    channel.build.start? pipeline command = none := by
  cases tells with
  | fence => exact start?_of_shared .sfence channel.fence rfl rfl rfl pipeline
  | push sent => exact start?_push sent pipeline

/-- Nothing is asked in this way. -/
theorem Tells.xd_eq_false (tells : channel.Tells command) : command.xd = false := by
  cases tells with
  | fence => rfl
  | @push parameter _ sent =>
      rcases bind_eq_ok_iff.mp sent with ⟨funct, _, made⟩
      cases made
      cases parameter <;> rfl

theorem exists_push_of_code? (coded : (channel.table.code? parameter.kind).isSome = true) :
    ∃ command, channel.push parameter = .ok command := by
  rcases Option.isSome_iff_exists.mp coded with ⟨funct, found⟩
  have has : channel.code parameter.kind = .ok funct := by
    unfold code
    rw [found]
  unfold push
  rw [has]
  exact ⟨_, rfl⟩

end Channel

namespace Machine

variable {υ : Type} [Accelerator υ] {build : Build} {first middle last : Machine υ}

/-- From the first machine to the last, the host has warned and has told units of this
build how to work, and has done nothing else. -/
inductive Told (build : Build) (first : Machine υ) : Machine υ → Prop
  | refl : Told build first first
  | notify {last : Machine υ} (told : Told build first last) (notice : Notice) :
    Told build first (last.notify notice)
  | issue {last : Machine υ} (told : Told build first last) {channel : Channel}
    (same : channel.build = build) {command : Command} (tells : channel.Tells command) :
    Told build first (last.issue command).2

theorem Told.trans (told : first.Told build middle) (more : middle.Told build last) :
    first.Told build last := by
  induction more with
  | refl => exact told
  | notify more notice hypothesis => exact .notify hypothesis notice
  | issue more same tells hypothesis => exact .issue hypothesis same tells

theorem Told.free (told : first.Told build last) : last.free = first.free := by
  induction told with
  | refl => rfl
  | notify told notice hypothesis => exact hypothesis
  | issue told same tells hypothesis => exact hypothesis

/-- A state of the unit that it stays in while it is told how to work, and memory stays
as it is. -/
structure Stays (build : Build) (calm : Machine υ → Prop) : Prop where
  of_unit : ∀ {first last : Machine υ}, calm first → last.unit = first.unit → calm last
  told : ∀ {first last : Machine υ}, calm first → first.Told build last →
    calm last ∧ last.memory = first.memory

theorem Told.idles {first last : Machine Simulated} (told : first.Told build last)
    (built : first.unit.device.build = build) : first.Idles last := by
  induction told with
  | refl => exact .refl
  | notify told notice hypothesis => exact .notify hypothesis notice
  | issue told same tells hypothesis =>
      refine .issue hypothesis _ ?_
      rw [hypothesis.build, built, ← same]
      exact tells.start?_eq_none

/-- A device at rest stays there. -/
theorem stays_rested (codecs : Codecs) (build : Build) : Stays build (Rested codecs build) where
  of_unit := Rested.of_unit
  told rested told := rested.idles (told.idles rested.build)

end Machine

namespace Facade

variable {υ : Type} [Accelerator υ] {facade : Facade} {machine : Machine υ} {parameter : Parameter}

theorem told_fence (facade : Facade) (machine : Machine υ) :
    machine.Told facade.channel.build (facade.fence machine) :=
  .issue .refl rfl .fence

/-- A parameter that the pipeline has is remembered, and the unit is told. -/
theorem exists_told (coded : (facade.channel.table.code? parameter.kind).isSome = true) :
    ∃ after, facade.push parameter machine =
        (.ok (), { facade with tuning := facade.tuning.record parameter }, after) ∧
      machine.Told facade.channel.build after := by
  rcases Channel.exists_push_of_code? coded with ⟨command, sent⟩
  exact ⟨(machine.issue command).2, push_of_ok sent, .issue .refl rfl (.push sent)⟩

end Facade

namespace Build

variable {build : Build} {pipeline : Pipeline} {table : FunctTable}

/-- Every compressor has a hash table. -/
theorem isSome_hashTableLog2 (present : build.table? pipeline = some table)
    (compresses : pipeline.isCompression = true) : (table.code? .hashTableLog2).isSome = true := by
  cases build <;> cases pipeline <;> cases compresses <;> cases present <;> rfl

/-- Every Zstd pipeline takes a latency. -/
theorem isSome_latency (present : build.table? pipeline = some table)
    (zstd : pipeline.algorithm = .zstd) : (table.code? .latencyInjection).isSome = true := by
  cases build <;> cases pipeline <;> cases zstd <;> cases present <;> rfl

end Build

/-! ## Blocks of memory -/

/-- The addresses that are used up by a block, with the page behind it. -/
def Machine.span (length : Nat) : Nat := (length / 4096 + 2) * 4096

/-- The blocks lie one behind the other, and all of them before this address. -/
structure Buffer.Laid (blocks : List Buffer) (limit : Nat) : Prop where
  ordered : blocks.Pairwise fun first second =>
    first.address.toNat + first.length.toNat ≤ second.address.toNat
  below : ∀ block ∈ blocks, block.address.toNat + block.length.toNat ≤ limit

namespace Machine

variable {υ : Type} {machine : Machine υ} {blocks : List Buffer} {length : Nat}

theorem lt_span (length : Nat) : length < span length := by
  unfold span
  omega

/-- A block is handed out where it was said to be free. -/
theorem toNat_allocate (fits : machine.free + span length ≤ Length.limit) :
    (machine.allocate length).1.toNat = machine.free ∧ (UInt64.ofNat length).toNat = length := by
  have room := lt_span length
  constructor
  · exact UInt64.toNat_ofNat_of_lt' (show machine.free < Length.limit by omega)
  · exact UInt64.toNat_ofNat_of_lt' (show length < Length.limit by omega)

theorem laid_allocate (laid : Buffer.Laid blocks machine.free)
    (fits : machine.free + span length ≤ Length.limit) :
    Buffer.Laid (blocks ++ [⟨(machine.allocate length).1, UInt64.ofNat length⟩])
      (machine.allocate length).2.free := by
  rcases toNat_allocate fits with ⟨address, held⟩
  have room := lt_span length
  change Buffer.Laid _ (machine.free + span length)
  constructor
  · rw [List.pairwise_append]
    refine ⟨laid.ordered, List.pairwise_singleton _ _, ?_⟩
    intro block member next latest
    cases List.mem_singleton.mp latest
    rw [address]
    exact laid.below block member
  · intro block member
    rcases List.mem_append.mp member with earlier | latest
    · exact (laid.below block earlier).trans (Nat.le_add_right _ _)
    · cases List.mem_singleton.mp latest
      dsimp only
      omega

/-- A region that can be laid out is handed out behind the blocks before it. -/
theorem exists_region (some : 0 < length) (small : length ≤ Region.sizeLimit)
    (laid : Buffer.Laid blocks machine.free) (fits : machine.free + span length ≤ Length.limit) :
    ∃ region, Facade.allocateRegion length machine =
        (.ok region, { machine with free := machine.free + span length }) ∧
      region.length.toNat = length ∧
      Buffer.Laid (blocks ++ [region]) (machine.free + span length) := by
  have granted : Region.check length = .ok () := by
    unfold Region.check
    rw [if_neg some.ne', if_pos small]
  refine ⟨⟨(machine.allocate length).1, UInt64.ofNat length⟩, ?_, (toNat_allocate fits).2,
    laid_allocate laid fits⟩
  unfold Facade.allocateRegion
  rw [granted]
  rfl

end Machine

end RoccCodec
