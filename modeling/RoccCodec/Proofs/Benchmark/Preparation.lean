import Mathlib.Algebra.Ring.Nat
import RoccCodec.Invocation
import RoccCodec.Proofs.Benchmark.Host
import RoccCodec.Proofs.Codec.Faithful
import RoccCodec.Proofs.Region.Capacity

namespace RoccCodec

/-!
# The preparation of a benchmark

A benchmark that can be run at all (`Benchmark.Feasible`) has a pipeline that its
build has, inputs whose bounds 32 bits hold, and blocks that fit into the address
space.  `Benchmark.exists_ready` has it prepared, for any accelerator: its buffers are
apart, each is as large as it has to be (`Benchmark.Arranged`), and the sources hold
what the pipeline is to be given (`Benchmark.Ready`).  The accelerator has only been
told how to work, so a simulated device is still at rest (`Benchmark.Sound`).
-/

/-! ## Sizes -/

namespace Algorithm

/-- The bound on a compressed size, as a number. -/
def most : Algorithm → Nat → Nat
  | .snappy, length => 32 + length + length / 6
  | .zstd, length => length + length / 256 + (Bound.smallSource - length) / 2048

variable {algorithm : Algorithm} {length : Nat}

theorem le_most (algorithm : Algorithm) (length : Nat) : length ≤ algorithm.most length := by
  cases algorithm with
  | snappy =>
      change length ≤ 32 + length + length / 6
      omega
  | zstd =>
      change length ≤ length + length / 256 + (Bound.smallSource - length) / 2048
      omega

theorem bound_eq_most (small : algorithm.most length < Codecs.sizeLimit) :
    algorithm.bound length = .ok (algorithm.most length) := by
  have addressable : length < 0x8000000000000000 := by
    have least := algorithm.le_most length
    unfold Codecs.sizeLimit at small
    omega
  cases algorithm with
  | snappy => exact Bound.snappy_eq addressable
  | zstd => exact Bound.zstd_eq addressable

end Algorithm

/-- What the host can compress on its own, and what becomes of it. -/
theorem Codecs.Faithful.compress? {codecs : Codecs} (faithful : codecs.Faithful) (level : Int32)
    {algorithm : Algorithm} {source : List UInt8}
    (small : algorithm.most source.length < sizeLimit) :
    ∃ block, codecs.compress? level algorithm source = some block ∧
      algorithm.declaredLength block = .ok source.length ∧
      ∀ back : Job, back.pipeline.isCompression = false → back.pipeline.algorithm = algorithm →
        back.codec codecs block = some source := by
  have bounded := Algorithm.bound_eq_most small
  cases algorithm with
  | snappy =>
      rcases @Codecs.Faithful.codec _ faithful ⟨.snappyCompress, default, .none, 0, 0, level,
        .powerOn⟩ rfl _ _ bounded small with ⟨block, coded, _, declared, restored⟩
      exact ⟨block, coded, declared, restored⟩
  | zstd =>
      rcases @Codecs.Faithful.codec _ faithful ⟨.zstdCompress, default, .none, 0, 0, level,
        .powerOn⟩ rfl _ _ bounded small with ⟨block, coded, _, declared, restored⟩
      exact ⟨block, coded, declared, restored⟩

/-- Steps that all succeed give a list of their results. -/
theorem mapM_eq_ok_map {ε α β : Type} {step : α → Except ε β} {result : α → β} {inputs : List α}
    (steps : ∀ input ∈ inputs, step input = .ok (result input)) :
    inputs.mapM step = .ok (inputs.map result) := by
  induction inputs with
  | nil => rfl
  | cons first rest hypothesis =>
      rw [List.mapM_cons, steps first List.mem_cons_self,
        hypothesis fun input member => steps input (List.mem_cons_of_mem _ member)]
      rfl

theorem Corpus.maxLength_le {corpus : Corpus} {most : Nat}
    (each : ∀ sample ∈ corpus.samples, sample.data.length ≤ most) : corpus.maxLength ≤ most := by
  have bounded : ∀ (lengths : List Nat) (least : Nat), least ≤ most →
      (∀ length ∈ lengths, length ≤ most) → lengths.foldl max least ≤ most := by
    intro lengths
    induction lengths with
    | nil => exact fun _ small _ => small
    | cons first rest hypothesis =>
        intro least small all
        have next := all first List.mem_cons_self
        exact hypothesis _ (Nat.max_le.mpr ⟨small, next⟩)
          fun length member => all length (List.mem_cons_of_mem _ member)
  apply bounded corpus.lengths 0 (Nat.zero_le most)
  intro length member
  rcases List.mem_map.mp member with ⟨sample, listed, rfl⟩
  exact each sample listed

namespace Layout

/-- The buffers among those of a layout that a pipeline works in. -/
def scratch (layout : Layout) : Pipeline → List Buffer
  | .snappyCompress | .snappyDecompress => []
  | .zstdCompress => [layout.literals, layout.sequences]
  | .zstdDecompress => [layout.workspace]

@[simp] theorem scratch_region (layout : Layout) (region : Buffer) (pipeline : Pipeline) :
    { layout with region }.scratch pipeline = layout.scratch pipeline := by
  cases pipeline <;> rfl

end Layout

namespace Benchmark

/-! ## What a benchmark asks for -/

/-- What the pipeline is given for a sample; nothing if the host fails to make it. -/
def input (codecs : Codecs) (benchmark : Benchmark) (sample : Sample) : List UInt8 :=
  match benchmark.feed codecs sample with
  | .ok bytes => bytes
  | .error _ => []

/-- The room for the output of a sample, as a number. -/
def need (benchmark : Benchmark) (sample : Sample) : Nat :=
  if benchmark.pipeline.isCompression then
    benchmark.pipeline.algorithm.most sample.data.length
  else sample.data.length

/-- The size of the region: a window for every sample, and a page. -/
def regionLength (benchmark : Benchmark) (corpus : Corpus) : Nat :=
  (corpus.samples.map fun sample => Region.padded (benchmark.need sample)).sum + 4096

/-- The sizes of the scratch buffers: each may have to hold the longest sample. -/
def scratchLengths (benchmark : Benchmark) (corpus : Corpus) : List Nat :=
  match benchmark.pipeline with
  | .snappyCompress | .snappyDecompress => []
  | .zstdCompress => [max corpus.maxLength 1, max corpus.maxLength 1]
  | .zstdDecompress => [max corpus.maxLength 1]

/-- The sizes of all blocks that a benchmark takes: its completion word, the scratch
buffers, the region and the inputs. -/
def blockLengths (codecs : Codecs) (benchmark : Benchmark) (corpus : Corpus) : List Nat :=
  [8] ++ benchmark.scratchLengths corpus ++ [benchmark.regionLength corpus] ++
    corpus.samples.map fun sample => (benchmark.input codecs sample).length

/-- The latency that is injected into the pipeline. -/
def injected (benchmark : Benchmark) : Option Latency :=
  match benchmark.pipeline.algorithm with
  | .snappy => none
  | .zstd => benchmark.options.latency

/-- A benchmark that can be run over a corpus: its build has the pipeline, it waits
for its requests, all bounds are below 2^32, and its memory can be allocated. -/
structure Feasible (codecs : Codecs) (benchmark : Benchmark) (corpus : Corpus) : Prop where
  present : benchmark.pipeline ∈ benchmark.options.build.pipelines
  waits : benchmark.options.policy ≠ some .skip
  bounded : ∀ sample ∈ corpus.samples,
    benchmark.pipeline.algorithm.most sample.data.length < Codecs.sizeLimit
  region : benchmark.regionLength corpus ≤ Region.sizeLimit
  addresses : Machine.firstAddress +
    ((benchmark.blockLengths codecs corpus).map Machine.span).sum ≤ Length.limit

instance (codecs : Codecs) (benchmark : Benchmark) (corpus : Corpus) :
    Decidable (benchmark.Feasible codecs corpus) :=
  decidable_of_iff (benchmark.pipeline ∈ benchmark.options.build.pipelines ∧
      benchmark.options.policy ≠ some .skip ∧
      (∀ sample ∈ corpus.samples,
        benchmark.pipeline.algorithm.most sample.data.length < Codecs.sizeLimit) ∧
      benchmark.regionLength corpus ≤ Region.sizeLimit ∧
      Machine.firstAddress +
        ((benchmark.blockLengths codecs corpus).map Machine.span).sum ≤ Length.limit)
    ⟨fun ⟨present, waits, bounded, region, addresses⟩ =>
        ⟨present, waits, bounded, region, addresses⟩,
      fun ⟨present, waits, bounded, region, addresses⟩ =>
        ⟨present, waits, bounded, region, addresses⟩⟩

/-- The buffers of a benchmark are apart, and large enough for every sample. -/
structure Arranged (benchmark : Benchmark) (corpus : Corpus) (word : UInt64) (layout : Layout)
    (items : List Item) : Prop where
  samples : items.map Item.sample = corpus.samples
  rooms : ∀ item ∈ items, item.room = benchmark.need item.sample
  apart : (Buffer.ofWord word :: layout.scratch benchmark.pipeline ++
    layout.region :: items.map Item.source).Pairwise Buffer.Apart
  scratch : ∀ buffer ∈ layout.scratch benchmark.pipeline,
    corpus.maxLength ≤ buffer.length.toNat
  region : layout.region.length.toNat = benchmark.regionLength corpus
  stop : layout.region.address.toNat + layout.region.length.toNat ≤ Length.limit

/-- The facade is that of the benchmark, and the sources are in memory. -/
structure Ready {υ : Type} (codecs : Codecs) (benchmark : Benchmark) (word : UInt64)
    (items : List Item) (facade : Facade) (machine : Machine υ) : Prop where
  build : facade.channel.build = benchmark.options.build
  pipeline : facade.channel.pipeline = benchmark.pipeline
  word : facade.word = word
  latency : facade.tuning.latency = benchmark.injected
  sources : ∀ item ∈ items, machine.read item.source.address item.source.length.toNat =
    benchmark.input codecs item.sample

/-- A facade that waits for its requests, with a simulated device at rest. -/
structure Sound (codecs : Codecs) (benchmark : Benchmark) (word : UInt64) (items : List Item)
    (facade : Facade) (machine : Machine Simulated) : Prop
    extends benchmark.Ready codecs word items facade machine where
  waits : facade.policy ≠ .skip
  rested : machine.Rested codecs benchmark.options.build

variable {codecs : Codecs} {benchmark : Benchmark} {corpus : Corpus} {sample : Sample}

theorem Feasible.length_lt (feasible : benchmark.Feasible codecs corpus)
    (member : sample ∈ corpus.samples) : sample.data.length < Codecs.sizeLimit :=
  (Algorithm.le_most _ _).trans_lt (feasible.bounded sample member)

/-- The longest sample fits into a scratch buffer that can be had. -/
theorem Feasible.maxLength_le (feasible : benchmark.Feasible codecs corpus) :
    max corpus.maxLength 1 ≤ Region.sizeLimit := by
  have small : corpus.maxLength ≤ Codecs.sizeLimit :=
    Corpus.maxLength_le fun sample member => (feasible.length_lt member).le
  exact Nat.max_le.mpr ⟨small.trans (by decide), by decide⟩

/-- Without a policy of its own, the benchmark spins. -/
theorem Feasible.policy_ne_skip (feasible : benchmark.Feasible codecs corpus) :
    benchmark.options.policy.getD .spin ≠ .skip := by
  cases asked : benchmark.options.policy with
  | none => simp
  | some policy =>
      rintro rfl
      exact feasible.waits asked

theorem Feasible.feed (faithful : codecs.Faithful) (feasible : benchmark.Feasible codecs corpus)
    (member : sample ∈ corpus.samples) :
    benchmark.feed codecs sample = .ok (benchmark.input codecs sample) := by
  unfold input
  cases fed : benchmark.feed codecs sample with
  | ok bytes => rfl
  | error cause =>
      exfalso
      unfold Benchmark.feed at fed
      split at fed
      · cases fed
      · rcases faithful.compress? benchmark.grid.level (feasible.bounded sample member) with
          ⟨block, coded, _⟩
        rw [coded] at fed
        cases fed

theorem Feasible.room (feasible : benchmark.Feasible codecs corpus)
    (member : sample ∈ corpus.samples) : benchmark.room sample = .ok (benchmark.need sample) := by
  unfold Benchmark.room need
  split
  · rw [Algorithm.bound_eq_most (feasible.bounded sample member)]
    rfl
  · rfl

theorem sum_blockLengths (codecs : Codecs) (benchmark : Benchmark) (corpus : Corpus)
    (cost : Nat → Nat) :
    ((benchmark.blockLengths codecs corpus).map cost).sum =
      cost 8 + ((benchmark.scratchLengths corpus).map cost).sum +
        cost (benchmark.regionLength corpus) +
        ((corpus.samples.map fun sample =>
          (benchmark.input codecs sample).length).map cost).sum := by
  simp only [blockLengths, List.map_append, List.sum_append, List.map_cons, List.map_nil,
    List.sum_cons, List.sum_nil, Nat.add_zero]

/-! ## The steps of the preparation -/

variable {υ : Type}

/-- A pipeline that takes a latency gets it, and any other goes without. -/
theorem exists_injected [Accelerator υ] {facade : Facade}
    (same : facade.channel.pipeline = benchmark.pipeline)
    (fresh : facade.tuning.latency = none) (machine : Machine υ) :
    ∃ tuning after, benchmark.injectLatency facade machine = .ok ({ facade with tuning }, after) ∧
      tuning.latency = benchmark.injected ∧ machine.Told facade.channel.build after := by
  cases asked : benchmark.options.latency with
  | none =>
      refine ⟨facade.tuning, machine, ?_, ?_, .refl⟩
      · simp [injectLatency, asked]
      · cases codec : benchmark.pipeline.algorithm <;> simp [injected, codec, asked, fresh]
  | some latency =>
      cases codec : benchmark.pipeline.algorithm with
      | snappy =>
          have unused : facade.tuning.latency = benchmark.injected := by
            rw [fresh, injected, codec]
          cases pipeline : benchmark.pipeline with
          | snappyCompress =>
              exact ⟨_, _, by rw [injectLatency, asked, pipeline], unused, .notify .refl _⟩
          | snappyDecompress =>
              exact ⟨_, _, by rw [injectLatency, asked, pipeline], unused, .notify .refl _⟩
          | zstdCompress => simp [pipeline, Pipeline.algorithm] at codec
          | zstdDecompress => simp [pipeline, Pipeline.algorithm] at codec
      | zstd =>
          have coded : (facade.channel.table.code? .latencyInjection).isSome = true := by
            apply Build.isSome_latency facade.channel.present
            rw [same, codec]
          rcases @Facade.exists_told υ _ facade machine (.latency latency) coded with
            ⟨after, pushed, told⟩
          refine ⟨facade.tuning.record (.latency latency), after, ?_, ?_, told⟩
          · have injects : benchmark.injectLatency facade machine =
                push facade (.latency latency) machine := by
              cases pipeline : benchmark.pipeline <;>
                simp [pipeline, Pipeline.algorithm] at codec <;>
                simp [injectLatency, asked, pipeline]
            rw [injects, push, pushed]
            rfl
          · simp [Tuning.record, injected, codec, asked]

theorem exists_opened [Accelerator υ]
    (present : benchmark.pipeline ∈ benchmark.options.build.pipelines) (unit : υ) :
    ∃ facade machine, benchmark.openFacade unit = .ok (facade, machine) ∧
      facade.channel.build = benchmark.options.build ∧
      facade.channel.pipeline = benchmark.pipeline ∧
      facade.policy = benchmark.options.policy.getD (Accelerator.policy unit) ∧
      facade.word = ((Machine.start unit).allocate 8).1 ∧
      facade.tuning.latency = benchmark.injected ∧
      ((Machine.start unit).allocate 8).2.Told benchmark.options.build machine := by
  rcases Option.isSome_iff_exists.mp (Build.mem_pipelines.mp present) with ⟨table, present⟩
  have opened : Facade.open? benchmark.options.build benchmark.pipeline (.start unit) =
      .ok (⟨⟨_, _, table, present⟩, .powerOn, Accelerator.policy unit, _⟩,
        ((Machine.start unit).allocate 8).2) :=
    bind_eq_ok_iff.mpr ⟨_, Channel.open?_eq_ok_iff.mpr ⟨rfl, rfl⟩, rfl⟩
  rcases @exists_injected benchmark υ _ ⟨⟨_, _, table, present⟩, .powerOn,
    benchmark.options.policy.getD (Accelerator.policy unit), ((Machine.start unit).allocate 8).1⟩
    rfl rfl ((Machine.start unit).allocate 8).2 with ⟨tuning, machine, injects, latency, told⟩
  have whole : benchmark.openFacade unit = .ok (⟨⟨_, _, table, present⟩, tuning,
      benchmark.options.policy.getD (Accelerator.policy unit),
      ((Machine.start unit).allocate 8).1⟩, machine) := by
    unfold openFacade
    dsimp only
    rw [opened]
    exact injects
  exact ⟨_, machine, whole, rfl, rfl, rfl, rfl, latency, told⟩

theorem exists_allocated {length : Nat} (some : 0 < length) (small : length ≤ Region.sizeLimit)
    {machine : Machine υ} {blocks : List Buffer} (laid : Buffer.Laid blocks machine.free)
    (fits : machine.free + Machine.span length ≤ Length.limit) :
    ∃ region, allocate length machine =
        .ok (region, { machine with free := machine.free + Machine.span length }) ∧
      region.length.toNat = length ∧
      Buffer.Laid (blocks ++ [region]) (machine.free + Machine.span length) := by
  rcases Machine.exists_region some small laid fits with ⟨region, allocated, held, behind⟩
  refine ⟨region, ?_, held, behind⟩
  rw [allocate, allocated, proceedFault_ok]

theorem exists_scratch (small : max corpus.maxLength 1 ≤ Region.sizeLimit)
    {machine : Machine υ} {blocks : List Buffer} (laid : Buffer.Laid blocks machine.free)
    (fits : machine.free + ((benchmark.scratchLengths corpus).map Machine.span).sum ≤
      Length.limit) :
    ∃ layout free, benchmark.allocateScratch corpus machine = .ok (layout, { machine with free }) ∧
      free = machine.free + ((benchmark.scratchLengths corpus).map Machine.span).sum ∧
      Buffer.Laid (blocks ++ layout.scratch benchmark.pipeline) free ∧
      ∀ buffer ∈ layout.scratch benchmark.pipeline, corpus.maxLength ≤ buffer.length.toNat := by
  have some : 0 < max corpus.maxLength 1 := Nat.lt_of_lt_of_le Nat.one_pos (Nat.le_max_right _ _)
  rcases benchmark with ⟨pipeline, options, grid⟩
  cases pipeline with
  | snappyCompress =>
      exact ⟨_, machine.free, rfl, rfl, by simpa [Layout.scratch] using laid,
        by simp [Layout.scratch]⟩
  | snappyDecompress =>
      exact ⟨_, machine.free, rfl, rfl, by simpa [Layout.scratch] using laid,
        by simp [Layout.scratch]⟩
  | zstdCompress =>
      simp only [scratchLengths, List.map_cons, List.map_nil, List.sum_cons, List.sum_nil,
        Nat.add_zero, ← Nat.add_assoc] at fits ⊢
      rcases exists_allocated some small laid (by omega) with
        ⟨literals, first, large, behind⟩
      rcases @exists_allocated υ _ some small
          { machine with free := machine.free + Machine.span (max corpus.maxLength 1) } _ behind
        fits with ⟨sequences, second, wide, last⟩
      refine ⟨⟨default, literals, sequences, default⟩, _,
        bind_eq_ok_iff.mpr ⟨_, first, bind_eq_ok_iff.mpr ⟨_, second, rfl⟩⟩, rfl, ?_, ?_⟩
      · simpa [Layout.scratch] using last
      · simp only [Layout.scratch, List.mem_cons, List.not_mem_nil, or_false, forall_eq_or_imp,
          forall_eq, large, wide]
        exact ⟨Nat.le_max_left _ _, Nat.le_max_left _ _⟩
  | zstdDecompress =>
      simp only [scratchLengths, List.map_cons, List.map_nil, List.sum_cons, List.sum_nil,
        Nat.add_zero] at fits ⊢
      rcases exists_allocated some small laid fits with ⟨workspace, allocated, large, behind⟩
      refine ⟨⟨default, default, default, workspace⟩, _,
        bind_eq_ok_iff.mpr ⟨_, allocated, rfl⟩, rfl, ?_, ?_⟩
      · simpa [Layout.scratch] using behind
      · simp only [Layout.scratch, List.mem_singleton, forall_eq, large]
        exact Nat.le_max_left _ _

theorem exists_setup [Accelerator υ] (facade : Facade) {machine : Machine υ} {blocks : List Buffer}
    {length : Nat} (some : 0 < length) (small : length ≤ Region.sizeLimit)
    (laid : Buffer.Laid blocks machine.free)
    (fits : machine.free + Machine.span length ≤ Length.limit) (bytes : UInt64) :
    ∃ region after, facade.setupRegion length (.some bytes) machine = (.ok region,
        { facade with tuning := facade.tuning.record (.history bytes) },
        { after with free := machine.free + Machine.span length }) ∧
      machine.Told facade.channel.build after ∧ region.length.toNat = length ∧
      Buffer.Laid (blocks ++ [region]) (machine.free + Machine.span length) := by
  rcases @Facade.exists_told υ _ facade (facade.fence machine) (.history bytes) rfl with
    ⟨after, pushed, pushes⟩
  have told := (facade.told_fence machine).trans pushes
  rw [← told.free] at laid fits ⊢
  rcases Machine.exists_region some small laid fits with ⟨region, allocated, held, behind⟩
  refine ⟨region, after, ?_, told, held, behind⟩
  unfold Facade.setupRegion
  simp only [pushed, allocated]

/-- Inputs that are put behind everything else stay where they are. -/
theorem exists_placed (bytes : Sample → List UInt8) (need : Sample → Nat) (samples : List Sample)
    {machine : Machine υ} {blocks : List Buffer} (laid : Buffer.Laid blocks machine.free)
    (fits : machine.free + ((samples.map fun sample => (bytes sample).length).map
      Machine.span).sum ≤ Length.limit) :
    ∃ items memory free,
      place machine (samples.map fun sample => (sample, bytes sample, need sample)) =
        (items, { machine with memory, free }) ∧
      Buffer.Laid (blocks ++ items.map Item.source) free ∧
      Memory.Agree (fun address => address < machine.free) memory machine.memory ∧
      items.map Item.sample = samples ∧
      ∀ item ∈ items, item.room = need item.sample ∧
        memory.read item.source.address.toNat item.source.length.toNat = bytes item.sample := by
  induction samples generalizing machine blocks with
  | nil =>
      exact ⟨[], machine.memory, machine.free, rfl, by simpa using laid, .refl _ _, rfl, by simp⟩
  | cons sample rest hypothesis =>
      simp only [List.map_cons, List.sum_cons, ← Nat.add_assoc] at fits
      have own : machine.free + Machine.span (bytes sample).length ≤ Length.limit := by omega
      rcases Machine.toNat_allocate own with ⟨address, held⟩
      have behind := Machine.laid_allocate laid own
      rcases @hypothesis ((machine.allocate (bytes sample).length).2.write
          (machine.allocate (bytes sample).length).1 (bytes sample)) _ behind fits with
        ⟨items, memory, free, placed, last, kept, same, holds⟩
      refine ⟨⟨sample, ⟨_, UInt64.ofNat (bytes sample).length⟩, need sample⟩ :: items, memory, free,
        ?_, by simpa using last, ?_, by rw [List.map_cons, same], ?_⟩
      · rw [List.map_cons, place]
        simp only [placed]
        rfl
      · intro byte below
        have written : byte < (machine.allocate (bytes sample).length).1.toNat := by
          rw [address]
          exact below
        exact (kept byte (Nat.lt_add_right _ below)).trans (Memory.byte_write_of_lt written)
      · intro item member
        rcases List.mem_cons.mp member with rfl | later
        · refine ⟨rfl, ?_⟩
          rw [held]
          refine (kept.read ?_ held.ge).trans (Memory.read_write _ _ _)
          intro byte covered
          have inside := covered.2
          rw [address, held] at inside
          exact inside.trans (Nat.add_lt_add_left (Machine.lt_span _) _)
        · exact holds item later

theorem prepare_eq [Accelerator υ] {unit : υ} {facade next : Facade}
    {opened allocated after last : Machine υ} {layout : Layout} {region : Buffer}
    {items : List Item} (faithful : codecs.Faithful) (feasible : benchmark.Feasible codecs corpus)
    (opening : benchmark.openFacade unit = .ok (facade, opened))
    (scratched : benchmark.allocateScratch corpus opened = .ok (layout, allocated))
    (setup : facade.setupRegion (benchmark.regionLength corpus) (some benchmark.grid.firstHistory)
      allocated = (.ok region, next, after))
    (placed : place after (corpus.samples.map fun sample =>
      (sample, benchmark.input codecs sample, benchmark.need sample)) = (items, last)) :
    benchmark.prepare codecs corpus unit = .ok ({ layout with region }, items,
      ⟨next, last, ⟨benchmark.grid.firstHistory, none⟩, .start region.length.toNat⟩) := by
  have feeds : corpus.samples.mapM (benchmark.feed codecs) =
      .ok (corpus.samples.map (benchmark.input codecs)) :=
    mapM_eq_ok_map fun sample member => feasible.feed faithful member
  have rooms : corpus.samples.mapM benchmark.room = .ok (corpus.samples.map benchmark.need) :=
    mapM_eq_ok_map fun sample member => feasible.room member
  have capacity : call (Failure.ofOverflow (Region.capacity (corpus.samples.map benchmark.need))) =
      .ok (benchmark.regionLength corpus) := by
    have total : ((corpus.samples.map benchmark.need).map Region.padded).sum + 4096 =
        benchmark.regionLength corpus := by
      rw [List.map_map]
      rfl
    rw [Region.capacity_eq_sum, total]
    · rfl
    · rw [total]
      exact feasible.region.trans_lt (by decide)
  have entries : corpus.samples.zip ((corpus.samples.map (benchmark.input codecs)).zip
      (corpus.samples.map benchmark.need)) = corpus.samples.map fun sample =>
        (sample, benchmark.input codecs sample, benchmark.need sample) := by
    rw [List.zip_map']
    conv_lhs => rw [← List.map_id corpus.samples, List.map_map, List.zip_map']
    rfl
  refine bind_eq_ok_iff.mpr ⟨_, opening, bind_eq_ok_iff.mpr ⟨_, scratched,
    bind_eq_ok_iff.mpr ⟨_, feeds, bind_eq_ok_iff.mpr ⟨_, rooms, bind_eq_ok_iff.mpr
      ⟨_, capacity, bind_eq_ok_iff.mpr ⟨(region, next, after), ?_, ?_⟩⟩⟩⟩⟩⟩
  · rw [setup, proceedFault_ok]
  · simp only [entries, placed]
    rfl

/-- A benchmark that can be run is prepared for its first move, and its unit has only been
told how to work. -/
theorem exists_ready [Accelerator υ] (faithful : codecs.Faithful)
    (feasible : benchmark.Feasible codecs corpus)
    {calm : Machine υ → Prop} (stays : Machine.Stays benchmark.options.build calm) {unit : υ}
    (start : calm (.start unit)) :
    ∃ layout items stage, benchmark.prepare codecs corpus unit = .ok (layout, items, stage) ∧
      benchmark.Arranged corpus stage.facade.word layout items ∧
      benchmark.Ready codecs stage.facade.word items stage.facade stage.machine ∧
      stage.facade.policy = benchmark.options.policy.getD (Accelerator.policy unit) ∧
      calm stage.machine := by
  have addresses := feasible.addresses
  rw [sum_blockLengths] at addresses
  rcases exists_opened feasible.present unit with
    ⟨facade, opened, opening, build, pipeline, policy, named, latency, told⟩
  have first : calm ((Machine.start unit).allocate 8).2 := stays.of_unit start rfl
  have opens := (stays.told first told).1
  -- The completion word is the first block.
  have taken : opened.free = Machine.firstAddress + Machine.span 8 := told.free
  have word : Buffer.Laid [Buffer.ofWord facade.word] opened.free := by
    rw [named, told.free]
    refine Machine.laid_allocate ⟨.nil, by simp⟩ ?_
    change Machine.firstAddress + _ ≤ _
    omega
  -- The scratch buffers, the region and the inputs follow in this order.
  rcases @exists_scratch benchmark corpus υ feasible.maxLength_le opened _ word (by omega) with
    ⟨scratch, free, scratched, next, afterScratch, wide⟩
  rcases @exists_setup υ _ facade { opened with free } _
    (benchmark.regionLength corpus) (Nat.succ_pos _) feasible.region afterScratch (by
      dsimp only
      omega) benchmark.grid.firstHistory with ⟨region, after, setup, pushes, large, afterRegion⟩
  have scratches : calm { opened with free } := stays.of_unit opens rfl
  rw [build] at pushes
  have sets := (stays.told scratches pushes).1
  rcases @exists_placed υ (benchmark.input codecs) benchmark.need corpus.samples
    { after with free := free + Machine.span (benchmark.regionLength corpus) } _ afterRegion (by
      dsimp only
      omega) with ⟨items, memory, last, placed, all, kept, same, holds⟩
  refine ⟨_, _, _, prepare_eq faithful feasible opening scratched setup placed, ?_, ?_, policy,
    stays.of_unit sets rfl⟩
  · refine ⟨same, fun item member => (holds item member).1, ?_, ?_, large, ?_⟩
    · rw [Layout.scratch_region]
      have apart := Buffer.pairwise_apart all.ordered
      simpa only [List.append_assoc, List.singleton_append, List.cons_append, List.nil_append]
        using apart
    · rw [Layout.scratch_region]
      exact wide
    · have below := afterRegion.below region (by simp)
      dsimp only at below ⊢
      omega
  · exact ⟨build, pipeline, rfl, latency, fun item member => (holds item member).2⟩

/-- On a simulated device, it waits for its requests and finds the device at rest. -/
theorem exists_prepared (faithful : codecs.Faithful) (feasible : benchmark.Feasible codecs corpus)
    {unit : Simulated} (built : unit.device.build = benchmark.options.build)
    (equipped : unit.codecs = codecs) (serves : unit.mode.Serves 3)
    (rest : unit.device.pending = 0) :
    ∃ layout items stage, benchmark.prepare codecs corpus unit = .ok (layout, items, stage) ∧
      benchmark.Arranged corpus stage.facade.word layout items ∧
      benchmark.Sound codecs stage.facade.word items stage.facade stage.machine := by
  have start : (Machine.start unit).Rested codecs benchmark.options.build :=
    ⟨built, equipped, serves, rest⟩
  rcases exists_ready faithful feasible (Machine.stays_rested codecs _) start with
    ⟨layout, items, stage, prepared, arranged, ready, policy, rested⟩
  refine ⟨layout, items, stage, prepared, arranged, ready, ?_, rested⟩
  rw [policy]
  exact feasible.policy_ne_skip

end Benchmark

end RoccCodec
