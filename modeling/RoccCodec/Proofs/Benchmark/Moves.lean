import RoccCodec.Proofs.Benchmark.Preparation
import RoccCodec.Proofs.CompletionWord
import RoccCodec.Proofs.Confinement

namespace RoccCodec

/-!
# The moves of a benchmark

A request of a benchmark is made in a window of the region that no other request of
the same point has.  `Benchmark.exists_request` follows it through the checks of
the driver, a simulated device and its codec, and the check of the output; nothing of
this fails, and all sources are left as they were.  The way to another point is the
same for all accelerators (`Benchmark.exists_readied`).
-/

/-! ## Calls that keep what they were not lent -/

namespace Task

variable {pipeline : Pipeline} {task : Task pipeline} {codecs : Codecs} {word : UInt64}
  {tuning : Tuning} {memory : Memory} {output : List UInt8} {kept : Nat → Prop}

/-- A job with room for its output changes nothing but the memory it was lent. -/
theorem run_keeps (apart : (task.buffers word).Pairwise Buffer.Apart)
    (coded : (task.job word tuning).codec codecs (contents memory task.source) = some output)
    (room : task.Holds (if pipeline.isCompression then task.source.length.toNat
      else output.length) output.length)
    (foreign : ∀ address, kept address → ¬ task.Lends word address) :
    Memory.Agree kept ((task.job word tuning).run codecs memory).memory memory := by
  rcases room with ⟨scratch, destination⟩
  simp only [buffers, List.pairwise_cons, List.mem_cons, forall_eq_or_imp] at apart
  have literals : pipeline.isCompression = true →
      ∀ buffer ∈ task.scratch, task.source.length.toNat ≤ buffer.length.toNat := by
    intro compresses
    simpa [compresses] using scratch
  have workspace : pipeline.isCompression = false →
      ∀ buffer ∈ task.scratch, output.length ≤ buffer.length.toNat := by
    intro decompresses
    simpa [decompresses] using scratch
  have source : (task.job word tuning).contents ((task.job word tuning).writeLiterals memory) =
      contents memory task.source :=
    (agree_writeLiterals apart.2.1.2 literals word tuning memory).read (fun _ => id) (Nat.le_refl _)
  have elsewhere : ∀ buffer ∈ task.scratch, ∀ address, kept address → ¬ buffer.Covers address :=
    fun buffer member address held covered =>
      foreign address held ⟨buffer, by simp [member], covered⟩
  have outside : ∀ address, kept address → ¬ task.destination.Covers address :=
    fun address held covered => foreign address held ⟨task.destination, by simp, covered⟩
  rw [Job.run_of_scratchCovers (scratchCovers_job literals word tuning), source, coded]
  exact (agree_writeOutput elsewhere outside workspace destination word tuning _).trans
    (agree_writeLiterals elsewhere literals word tuning memory)

end Task

namespace Facade.Exclusive

variable {codecs : Codecs} {facade : Facade} {task : Task facade.channel.pipeline}
  {machine : Machine Simulated} {output : List UInt8} {kept : Nat → Prop}

/-- From a device at rest to a device at rest: the output is in the destination, and
memory that was not lent is as before. -/
theorem run_rested (exclusive : facade.Exclusive codecs task machine)
    (requested : task.request machine.memory = .ok task.message)
    (made : facade.output? task machine = some output)
    (room : task.Holds (if facade.channel.pipeline.isCompression then task.source.length.toNat
      else output.length) output.length)
    (waits : facade.policy ≠ .skip) (rested : machine.Rested codecs facade.channel.build)
    (foreign : ∀ address, kept address → ¬ task.Lends facade.word address) :
    ∃ after, facade.run task machine =
        (.ok ⟨(facade.jobOf task machine).value output, facade.channel.width⟩, facade, after) ∧
      after.read task.destination.address output.length = output ∧
      after.Rested codecs facade.channel.build ∧
      Memory.Agree kept after.memory machine.memory := by
  have fits : ∀ content ∈ facade.output? task machine, content.length ≤ output.length := by
    rw [made]
    rintro content ⟨⟩
    exact Nat.le_refl _
  have serves : machine.unit.mode.Serves (machine.unit.device.pending + 3) := by
    rw [rested.rest]
    exact rested.serves
  have word : ∀ address, kept address → ¬ (Buffer.ofWord facade.word).Covers address :=
    fun address held => Task.not_covers_word (foreign address held)
  have keeps : ∀ memory,
      Memory.Agree (task.Owns facade.word) memory (machine.memory.store facade.word 0) →
      Memory.Agree kept ((facade.jobOf task machine).run codecs memory).memory memory := by
    intro memory same
    apply Task.run_keeps exclusive.apart _ room foreign
    have source : Task.contents memory task.source = Task.contents machine.memory task.source := by
      refine Eq.trans (same.read ?_ (Nat.le_refl _)) exclusive.contents_store
      exact fun address covered => ⟨task.source, by simp [Task.buffers], covered⟩
    rw [source, ← exclusive.equipped]
    exact made
  rcases exclusive.run requested made room waits serves with ⟨after, ran, left, rest⟩
  -- The same call, as it is seen by the owners of the memory it does not get.
  have watched : ∃ sent, facade.dispatch task machine = (.ok (), sent) ∧
      Call.Flight { exclusive.call room fits with
        own := fun address => task.Owns facade.word address ∨ kept address
        good := fun memory => Memory.Agree kept memory (machine.memory.store facade.word 0)
        settles := (exclusive.call room fits).settles.widen keeps word } none sent := by
    refine Call.Flight.of_dispatch exclusive.built exclusive.equipped rfl (Nat.le_refl _) rfl rfl
      requested exclusive.check_message ?_
    exact Device.spares_of_pending_eq_zero rested.rest _ _
  rcases watched with ⟨sent, accepted, flight⟩
  rcases flight.run accepted with ⟨completion, final, again, settled⟩
  cases ran.symm.trans again
  refine ⟨after, ran, left, ⟨settled.built, settled.equipped, ?_, rest⟩, ?_⟩
  · rw [settled.mode]
    exact rested.serves
  · exact (settled.serving.agree word).trans (Memory.agree_store machine.memory word 0)

end Facade.Exclusive

/-! ## Windows -/

theorem Buffer.Apart.mono {first outer inner : Buffer} (apart : first.Apart outer)
    (within : ∀ address, inner.Covers address → outer.Covers address) : first.Apart inner :=
  fun address covered inside => apart address covered (within address inside)

namespace Layout

/-- The memory of a window. -/
def window (layout : Layout) (window : Window) : Buffer :=
  ⟨layout.region.address + UInt64.ofNat window.offset, UInt64.ofNat window.length⟩

variable {layout : Layout} {place : Window}

/-- A window that ends in the region lies in it. -/
theorem window_within (ends : place.offset + place.length ≤ layout.region.length.toNat)
    (filled : 0 < place.length)
    (stop : layout.region.address.toNat + layout.region.length.toNat ≤ Length.limit) :
    (layout.window place).length.toNat = place.length ∧
      ∀ address, (layout.window place).Covers address → layout.region.Covers address := by
  have small := layout.region.length.toNat_lt
  have offset : (UInt64.ofNat place.offset).toNat = place.offset :=
    UInt64.toNat_ofNat_of_lt' (show place.offset < 2 ^ 64 by omega)
  have length : (UInt64.ofNat place.length).toNat = place.length :=
    UInt64.toNat_ofNat_of_lt' (show place.length < 2 ^ 64 by omega)
  have address : (layout.window place).address.toNat =
      layout.region.address.toNat + place.offset := by
    change (layout.region.address + UInt64.ofNat place.offset).toNat = _
    unfold Length.limit at stop
    rw [UInt64.toNat_add, offset]
    omega
  refine ⟨length, ?_⟩
  intro byte covered
  unfold Buffer.Covers at covered ⊢
  rw [address] at covered
  change _ ∧ _ < _ + (UInt64.ofNat place.length).toNat at covered
  omega

end Layout

/-! ## Outputs -/

/-- What a unit makes of a block is what the host makes of it. -/
theorem Codecs.decompress?_of_codec {codecs : Codecs} {job : Job} {block content : List UInt8}
    (decompresses : job.pipeline.isCompression = false)
    (coded : job.codec codecs block = some content) :
    codecs.decompress? job.pipeline.algorithm block = some content := by
  rcases job with ⟨pipeline, input, auxiliary, destination, word, level, tuning⟩
  cases pipeline with
  | snappyDecompress => exact coded
  | zstdDecompress =>
      unfold Job.codec at coded
      dsimp only at coded
      split at coded
      · cases coded
      · rcases Option.bind_eq_some_iff.mp coded with ⟨decoded, found, sized⟩
        have same := (Option.ite_none_right_eq_some.mp sized).2
        change (codecs.zstdDecode block).map Zstd.Content.bytes = _
        rw [found]
        exact same
  | snappyCompress => cases decompresses
  | zstdCompress => cases decompresses

/-- What a unit compresses is small, and the host gets the source back from it. -/
theorem Codecs.Faithful.decompress?_codec {codecs : Codecs} (faithful : codecs.Faithful) {job : Job}
    (compresses : job.pipeline.isCompression = true) {source : List UInt8}
    (small : job.pipeline.algorithm.most source.length < sizeLimit) :
    ∃ block, job.codec codecs source = some block ∧
      block.length ≤ job.pipeline.algorithm.most source.length ∧
      codecs.decompress? job.pipeline.algorithm block = some source := by
  rcases @Codecs.Faithful.codec _ faithful job compresses _ _ (Algorithm.bound_eq_most small) small
    with ⟨block, coded, fits, _, restored⟩
  refine ⟨block, coded, fits, ?_⟩
  have algorithm := Invocation.algorithm_decompressor job.pipeline.algorithm
  have decompresses : (Invocation.decompressor job.pipeline.algorithm).isCompression = false := by
    cases job.pipeline.algorithm <;> rfl
  have back := restored ⟨Invocation.decompressor job.pipeline.algorithm, default, .none, 0, 0, 0,
    .powerOn⟩ decompresses algorithm
  rw [← algorithm]
  exact decompress?_of_codec decompresses back

namespace Benchmark

variable {codecs : Codecs} {benchmark : Benchmark} {corpus : Corpus} {sample : Sample}
  {facade : Facade} {machine : Machine Simulated} {output : List UInt8}

/-- An output that is right: the host gets the sample back from it, or it is the
sample itself. -/
def Right (codecs : Codecs) (benchmark : Benchmark) (sample : Sample) (output : List UInt8) :
    Prop :=
  if benchmark.pipeline.isCompression then
    codecs.decompress? benchmark.pipeline.algorithm output = some sample.data
  else output = sample.data

theorem input_of_compression (compresses : benchmark.pipeline.isCompression = true) :
    benchmark.input codecs sample = sample.data := by
  simp [input, feed, compresses]

/-- The input of a decompression is a form of its sample. -/
theorem input_of_decompression (faithful : codecs.Faithful)
    (small : benchmark.pipeline.algorithm.most sample.data.length < Codecs.sizeLimit)
    (decompresses : benchmark.pipeline.isCompression = false) :
    benchmark.pipeline.algorithm.declaredLength (benchmark.input codecs sample) =
        .ok sample.data.length ∧
      ∀ back : Job, back.pipeline = benchmark.pipeline →
        back.codec codecs (benchmark.input codecs sample) = some sample.data := by
  rcases faithful.compress? benchmark.grid.level small with ⟨block, coded, declared, restored⟩
  have made : benchmark.input codecs sample = block := by
    simp [input, feed, decompresses, coded]
  rw [made]
  refine ⟨declared, fun back same => restored back ?_ ?_⟩
  · rw [same]
    exact decompresses
  · rw [same]

/-- A task with the input of a sample and with room enough is sent. -/
theorem request_of_given (faithful : codecs.Faithful)
    (small : benchmark.pipeline.algorithm.most sample.data.length < Codecs.sizeLimit)
    (same : facade.channel.pipeline = benchmark.pipeline) {task : Task facade.channel.pipeline}
    {memory : Memory} (given : Task.contents memory task.source = benchmark.input codecs sample)
    (room : task.Holds sample.data.length (benchmark.need sample)) :
    task.request memory = .ok task.message := by
  have length : (Task.contents memory task.source).length = task.source.length.toNat :=
    Memory.length_read _ _ _
  cases compresses : benchmark.pipeline.isCompression with
  | true =>
      rw [given, input_of_compression compresses] at length
      rw [need, if_pos compresses, length, ← same] at room
      rw [length, ← same] at small
      rw [← same] at compresses
      exact (Task.request_of_compression compresses).mpr
        ⟨rfl, _, Algorithm.bound_eq_most small, room⟩
  | false =>
      have declared := (input_of_decompression faithful small compresses).1
      rw [← given, ← same] at declared
      rw [need, compresses] at room
      rw [← same] at compresses
      exact (Task.request_of_decompression compresses).mpr ⟨rfl, _, declared, room⟩

/-- Its codec makes a right output that fits into the room. -/
theorem exists_output (faithful : codecs.Faithful)
    (small : benchmark.pipeline.algorithm.most sample.data.length < Codecs.sizeLimit)
    (same : facade.channel.pipeline = benchmark.pipeline)
    (equipped : machine.unit.codecs = codecs) {task : Task facade.channel.pipeline}
    (given : Task.contents machine.memory task.source = benchmark.input codecs sample)
    (room : task.Holds sample.data.length (benchmark.need sample)) :
    ∃ output, facade.output? task machine = some output ∧
      task.Holds (if facade.channel.pipeline.isCompression then task.source.length.toNat
        else output.length) output.length ∧
      output.length ≤ benchmark.need sample ∧ benchmark.Right codecs sample output := by
  have length : (Task.contents machine.memory task.source).length = task.source.length.toNat :=
    Memory.length_read _ _ _
  unfold Facade.output? Right
  rw [equipped, given]
  rw [given] at length
  cases compresses : benchmark.pipeline.isCompression with
  | true =>
      have size : benchmark.need sample = benchmark.pipeline.algorithm.most sample.data.length :=
        if_pos compresses
      rw [input_of_compression compresses] at length ⊢
      rw [size] at room ⊢
      rw [← same] at compresses small room ⊢
      rcases @Codecs.Faithful.decompress?_codec _ faithful (facade.jobOf task machine) compresses _
        small with ⟨block, coded, fits, undone⟩
      refine ⟨block, coded, ?_, fits, ?_⟩
      · rw [if_pos compresses, ← length]
        exact ⟨room.scratch, fits.trans room.destination⟩
      · rw [if_pos rfl]
        exact undone
  | false =>
      have size : benchmark.need sample = sample.data.length := by
        simp [need, compresses]
      have coded := (input_of_decompression faithful small compresses).2 (facade.jobOf task machine)
        same
      rw [size] at room ⊢
      rw [← same] at compresses ⊢
      refine ⟨sample.data, coded, ?_, Nat.le_refl _, ?_⟩
      · simpa [compresses] using room
      · simp

theorem need_le_most (benchmark : Benchmark) (sample : Sample) :
    benchmark.need sample ≤ benchmark.pipeline.algorithm.most sample.data.length := by
  unfold need
  split
  · exact Nat.le_refl _
  · exact Algorithm.le_most _ _

/-- The check of an output that is right, and that lies in its window, says so. -/
theorem judge_of_right (same : facade.channel.pipeline = benchmark.pipeline) {item : Item}
    {window : Buffer} {task : Task facade.channel.pipeline} {after : Machine Simulated}
    (right : benchmark.Right codecs item.sample output)
    (fits : output.length ≤ window.length.toNat) (small : output.length < Codecs.sizeLimit)
    (left : after.read window.address output.length = output) :
    (benchmark.judge codecs item window
      ⟨(facade.jobOf task machine).value output, facade.channel.width⟩ after).2 = true := by
  rw [Facade.jobOf_value]
  unfold judge
  unfold Right at right
  cases compresses : benchmark.pipeline.isCompression with
  | true =>
      rw [if_pos compresses] at right
      rw [← same] at compresses
      have produced := Completion.toNat_produced (Channel.width_ne_bits8 compresses) small
      rw [if_pos compresses]
      simp only [if_true, produced, Nat.min_eq_left fits, left]
      simp [Codecs.verifies, right]
  | false =>
      simp only [compresses, Bool.false_eq_true, if_false] at right
      subst output
      have flagged : (Completion.mk 1 facade.channel.width).success = true := by
        cases facade.channel.width <;> decide
      rw [same, compresses]
      simp [flagged, left]

end Benchmark

/-! ## Requests -/

namespace Layout

/-- The task of a pipeline in the buffers of a layout. -/
def task (layout : Layout) (source destination : Buffer) (level : Int32) (pipeline : Pipeline) :
    Task pipeline :=
  .ofBuffers source destination layout.literals layout.sequences layout.workspace level pipeline

variable (layout : Layout) (source destination : Buffer) (level : Int32) (pipeline : Pipeline)

@[simp] theorem source_task : (layout.task source destination level pipeline).source = source := by
  cases pipeline <;> rfl

@[simp] theorem destination_task :
    (layout.task source destination level pipeline).destination = destination := by
  cases pipeline <;> rfl

@[simp] theorem scratch_task :
    (layout.task source destination level pipeline).scratch = layout.scratch pipeline := by
  cases pipeline <;> rfl

end Layout

namespace Benchmark

variable {codecs : Codecs} {benchmark : Benchmark} {corpus : Corpus} {layout : Layout}
  {items : List Item} {item : Item} {facade : Facade} {word : UInt64} {destination : Buffer}
  {level : Int32}

/-- What a request works on is apart, wherever in the region its window is. -/
theorem Arranged.pairwise_buffers (arranged : benchmark.Arranged corpus word layout items)
    (member : item ∈ items)
    (within : ∀ address, destination.Covers address → layout.region.Covers address) :
    ((layout.task item.source destination level benchmark.pipeline).buffers word).Pairwise
      Buffer.Apart := by
  have source : item.source ∈ items.map Item.source := List.mem_map_of_mem member
  rcases List.pairwise_append.mp arranged.apart with ⟨front, back, cross⟩
  rcases List.pairwise_cons.mp front with ⟨wordScratch, scratch⟩
  have region := (List.pairwise_cons.mp back).1 _ source
  simp only [Task.buffers, Layout.source_task, Layout.destination_task, Layout.scratch_task,
    List.pairwise_cons, List.mem_cons, forall_eq_or_imp]
  simp only [List.mem_cons, forall_eq_or_imp] at cross
  rcases cross with ⟨⟨wordRegion, wordSources⟩, others⟩
  refine ⟨⟨wordSources _ source, wordRegion.mono within, wordScratch⟩,
    ⟨region.symm.mono within, ?_⟩, ?_, scratch⟩
  · exact fun buffer listed => ((others buffer listed).2 _ source).symm
  · exact fun buffer listed => ((others buffer listed).1.mono within).symm

/-- No source is lent to a unit for its output. -/
theorem Arranged.not_lends (arranged : benchmark.Arranged corpus word layout items)
    (within : ∀ address, destination.Covers address → layout.region.Covers address)
    {address : Nat} (held : ∃ other ∈ items, other.source.Covers address) :
    ¬ (layout.task item.source destination level benchmark.pipeline).Lends word address := by
  rcases held with ⟨other, member, covered⟩
  have source : other.source ∈ items.map Item.source := List.mem_map_of_mem member
  rcases List.pairwise_append.mp arranged.apart with ⟨_, back, cross⟩
  have region := (List.pairwise_cons.mp back).1 _ source
  rintro ⟨buffer, lent, inside⟩
  simp only [Layout.destination_task, Layout.scratch_task, List.mem_cons] at lent
  rcases lent with rfl | rfl | scratch
  · exact cross _ List.mem_cons_self _ (List.mem_cons_of_mem _ source) address inside covered
  · exact region address (within address inside) covered
  · exact cross _ (List.mem_cons_of_mem _ scratch) _ (List.mem_cons_of_mem _ source) address inside
      covered

/-- The buffers of a request hold what they may have to hold. -/
theorem Arranged.holds (arranged : benchmark.Arranged corpus word layout items)
    (member : item ∈ items) (roomy : item.room ≤ destination.length.toNat) :
    (layout.task item.source destination level benchmark.pipeline).Holds item.sample.data.length
      (benchmark.need item.sample) := by
  have listed : item.sample ∈ corpus.samples := by
    rw [← arranged.samples]
    exact List.mem_map_of_mem member
  constructor
  · rw [Layout.scratch_task]
    exact fun buffer scratch =>
      (Corpus.length_le_maxLength listed).trans (arranged.scratch buffer scratch)
  · rw [Layout.destination_task, ← arranged.rooms item member]
    exact roomy

theorem Arranged.small (arranged : benchmark.Arranged corpus word layout items)
    (feasible : benchmark.Feasible codecs corpus) (member : item ∈ items) :
    benchmark.pipeline.algorithm.most item.sample.data.length < Codecs.sizeLimit := by
  apply feasible.bounded
  rw [← arranged.samples]
  exact List.mem_map_of_mem member

/-- Sources that nothing was written to are still in memory. -/
theorem Ready.of_agree {υ : Type} {machine after : Machine υ}
    (ready : benchmark.Ready codecs word items facade machine)
    (kept : Memory.Agree (fun address => ∃ other ∈ items, other.source.Covers address)
      after.memory machine.memory) : benchmark.Ready codecs word items facade after where
  build := ready.build
  pipeline := ready.pipeline
  word := ready.word
  latency := ready.latency
  sources := by
    intro item member
    rw [← ready.sources item member]
    exact kept.read (fun address covered => ⟨item, member, covered⟩) (Nat.le_refl _)

/-- A task that has its output in a window, as a benchmark makes it for an item: the driver
takes it, and the sources of all items are safe from it. -/
structure Placed {υ : Type} (codecs : Codecs) (benchmark : Benchmark) (items : List Item)
    (item : Item) (window : Buffer) (facade : Facade) (task : Task facade.channel.pipeline)
    (machine : Machine υ) : Prop where
  destination : task.destination = window
  given : Task.contents machine.memory task.source = benchmark.input codecs item.sample
  room : task.Holds item.sample.data.length (benchmark.need item.sample)
  apart : (task.buffers facade.word).Pairwise Buffer.Apart
  foreign : ∀ address, (∃ other ∈ items, other.source.Covers address) →
    ¬ task.Lends facade.word address
  requested : task.request machine.memory = .ok task.message

/-- Any window of the region that is large enough will do. -/
theorem Ready.placed {υ : Type} {machine : Machine υ} (faithful : codecs.Faithful)
    (feasible : benchmark.Feasible codecs corpus)
    (arranged : benchmark.Arranged corpus word layout items)
    (ready : benchmark.Ready codecs word items facade machine) (member : item ∈ items)
    {window : Buffer} (roomy : item.room ≤ window.length.toNat)
    (within : ∀ address, window.Covers address → layout.region.Covers address) :
    benchmark.Placed codecs items item window facade
      (layout.task item.source window benchmark.grid.level facade.channel.pipeline) machine := by
  have room := @Arranged.holds _ _ _ _ _ _ _ benchmark.grid.level arranged member roomy
  have apart := @Arranged.pairwise_buffers _ _ _ _ _ _ _ benchmark.grid.level arranged member
    within
  have foreign := @Arranged.not_lends _ _ _ _ item word window benchmark.grid.level arranged within
  rw [← ready.pipeline] at room
  rw [← ready.pipeline, ← ready.word] at apart foreign
  have given : Task.contents machine.memory (layout.task item.source window benchmark.grid.level
      facade.channel.pipeline).source = benchmark.input codecs item.sample := by
    rw [Layout.source_task]
    exact ready.sources item member
  exact ⟨Layout.destination_task _ _ _ _ _, given, room, apart, fun address held => foreign held,
    request_of_given faithful (arranged.small feasible member) ready.pipeline given room⟩

/-- A request in any window of the region that is large enough gets a right output. -/
theorem exists_served (faithful : codecs.Faithful) (feasible : benchmark.Feasible codecs corpus)
    (arranged : benchmark.Arranged corpus word layout items) {machine : Machine Simulated}
    (sound : benchmark.Sound codecs word items facade machine) (member : item ∈ items)
    {window : Buffer} (roomy : item.room ≤ window.length.toNat)
    (within : ∀ address, window.Covers address → layout.region.Covers address) :
    ∃ completion after,
      facade.run (layout.task item.source window benchmark.grid.level facade.channel.pipeline)
        machine = (.ok completion, facade, after) ∧
      (benchmark.judge codecs item window completion after).2 = true ∧
      benchmark.Sound codecs word items facade after := by
  have small := arranged.small feasible member
  have placed := sound.toReady.placed faithful feasible arranged member roomy within
  generalize layout.task item.source window benchmark.grid.level facade.channel.pipeline = task
    at placed ⊢
  have exclusive : facade.Exclusive codecs task machine :=
    ⟨sound.rested.build.trans sound.build.symm, sound.rested.codecs, placed.apart,
      Device.spares_of_pending_eq_zero sound.rested.rest _ _⟩
  rcases exists_output faithful small sound.pipeline sound.rested.codecs placed.given placed.room
    with ⟨output, made, holds, fits, right⟩
  rcases exclusive.run_rested placed.requested made holds sound.waits (sound.build ▸ sound.rested)
    placed.foreign with ⟨after, ran, left, rested, kept⟩
  rw [placed.destination] at left
  rw [arranged.rooms item member] at roomy
  have fitting := (fits.trans (benchmark.need_le_most item.sample)).trans_lt small
  refine ⟨_, after, ran, ?_, sound.toReady.of_agree kept, sound.waits, sound.build ▸ rested⟩
  exact judge_of_right sound.pipeline right (fits.trans roomy) fitting left

/-- What a record says, apart from measured times and sizes. -/
def entry (record : Record) : String × Point × Bool := (record.name, record.point, record.verified)

/-- A request whose call returns leaves a record, and a warning if its output is not
right. -/
theorem move_request_eq {υ : Type} [Accelerator υ] {stage : Stage υ} {place : Window}
    {next : Cursor} {completion : Completion} {after : Machine υ} {length : Nat} {verified : Bool}
    (carved : stage.cursor.carve item.room = (.ok place, next))
    (ran : stage.facade.run (layout.task item.source (layout.window place) benchmark.grid.level
      stage.facade.channel.pipeline) stage.machine = (.ok completion, stage.facade, after))
    (judged : benchmark.judge codecs item (layout.window place) completion after =
      (length, verified)) :
    benchmark.move codecs layout stage (.request item) =
      .ok ({ stage with
          machine := if verified then after else after.notify benchmark.mismatch
          cursor := next },
        some ⟨item.sample.name, stage.point,
          benchmark.options.backend.delay stage.facade.tuning, item.source.length.toNat, length,
          verified⟩) := by
  unfold Layout.window Layout.task at ran
  unfold Layout.window at judged
  refine bind_eq_ok_iff.mpr ⟨_, congrArg proceed carved, ?_⟩
  refine bind_eq_ok_iff.mpr ⟨_, congrArg proceed ran, ?_⟩
  dsimp only
  rw [judged]
  rfl

/-- There is a window for a request that the rest of the region has room for. -/
theorem Arranged.exists_window (arranged : benchmark.Arranged corpus word layout items)
    {cursor : Cursor}
    (inside : cursor.rest.offset + cursor.remaining = layout.region.length.toNat)
    (roomy : Region.padded item.room ≤ cursor.remaining) :
    ∃ place, cursor.carve item.room =
        (.ok place, cursor.advance (Region.padded item.room)) ∧
      item.room ≤ (layout.window place).length.toNat ∧
      ∀ address, (layout.window place).Covers address → layout.region.Covers address := by
  have filled : item.room < Region.padded item.room := by
    unfold Region.padded
    omega
  have least : layout.region.length.toNat < Length.limit := layout.region.length.toNat_lt
  rcases @Layout.window_within layout (cursor.rest.take (Region.padded item.room)) (by
    dsimp only [Window.take]
    omega) (Nat.lt_of_le_of_lt (Nat.zero_le _) filled) arranged.stop with ⟨length, within⟩
  refine ⟨_, Cursor.carve_of_le roomy (by omega), ?_, within⟩
  rw [length]
  exact filled.le

/-- A request has its output verified, and leaves a host that can make the next one. -/
theorem exists_request (faithful : codecs.Faithful) (feasible : benchmark.Feasible codecs corpus)
    (arranged : benchmark.Arranged corpus word layout items) {stage : Stage Simulated}
    (sound : benchmark.Sound codecs word items stage.facade stage.machine) (member : item ∈ items)
    (inside : stage.cursor.rest.offset + stage.cursor.remaining = layout.region.length.toNat)
    (roomy : Region.padded item.room ≤ stage.cursor.remaining) :
    ∃ after record, benchmark.move codecs layout stage (.request item) =
        .ok ({ stage with
          machine := after
          cursor := stage.cursor.advance (Region.padded item.room) }, some record) ∧
      benchmark.Sound codecs word items stage.facade after ∧
      entry record = (item.sample.name, stage.point, true) ∧
      record.elapsed = benchmark.options.backend.delay stage.facade.tuning := by
  rcases arranged.exists_window inside roomy with ⟨place, carved, room, within⟩
  rcases exists_served faithful feasible arranged sound member room within with
    ⟨completion, after, ran, judged, sound⟩
  have right : benchmark.judge codecs item (layout.window place) completion after =
      ((benchmark.judge codecs item (layout.window place) completion after).1, true) :=
    Prod.ext rfl judged
  have moved := move_request_eq carved ran right
  exact ⟨after, _, moved, sound, rfl, rfl⟩

/-! ## Points -/

section Tuned

variable {υ : Type} [Accelerator υ] {stage : Stage υ}

theorem push_eq_ok {next : Facade} {parameter : Parameter} {machine after : Machine υ}
    (pushed : facade.push parameter machine = (.ok (), next, after)) :
    push facade parameter machine = .ok (next, after) := by
  rw [push, pushed]
  rfl

/-- All parameters of a point of the grid can be pushed. -/
theorem exists_pushed {point : Point} (listed : point ∈ benchmark.grid.points benchmark.pipeline)
    (same : facade.channel.pipeline = benchmark.pipeline) (machine : Machine υ) :
    ∃ tuning after, tune facade machine point = .ok ({ facade with tuning }, after) ∧
      tuning.latency = facade.tuning.latency ∧ machine.Told facade.channel.build after := by
  rcases @Facade.exists_told _ _ facade machine (.history point.history) rfl with
    ⟨middle, first, told⟩
  cases table : point.hashTableLog2 with
  | none =>
      refine ⟨facade.tuning.record (.history point.history), middle,
        bind_eq_ok_iff.mpr ⟨_, push_eq_ok first, ?_⟩, rfl, told⟩
      simp only [table]
      rfl
  | some log2 =>
      have compresses : facade.channel.pipeline.isCompression = true := by
        rw [same]
        cases compression : benchmark.pipeline.isCompression with
        | true => rfl
        | false =>
            simp only [TuningGrid.points, compression, Bool.false_eq_true, if_false, List.mem_map]
              at listed
            rcases listed with ⟨history, _, rfl⟩
            cases table
      rcases @Facade.exists_told _ _ { facade with
          tuning := facade.tuning.record (.history point.history) } middle (.hashTableLog2 log2)
        (Build.isSome_hashTableLog2 facade.channel.present compresses) with ⟨after, second, more⟩
      refine ⟨(facade.tuning.record (.history point.history)).record (.hashTableLog2 log2), after,
        bind_eq_ok_iff.mpr ⟨_, push_eq_ok first, ?_⟩, rfl, told.trans more⟩
      simp only [table]
      exact push_eq_ok second

/-- On the way to a point the region is cleared, and the first window is shifted. -/
theorem exists_readied (arranged : benchmark.Arranged corpus word layout items)
    {calm : Machine υ → Prop} (stays : Machine.Stays benchmark.options.build calm)
    (ready : benchmark.Ready codecs word items stage.facade stage.machine)
    (calms : calm stage.machine) {point : Point}
    (listed : point ∈ benchmark.grid.points benchmark.pipeline) (number : Nat) :
    ∃ tuning after, benchmark.move codecs layout stage (.tune number point) =
        .ok (⟨{ stage.facade with tuning }, after, point,
          (Cursor.start layout.region.length.toNat).advance (shift number)⟩, none) ∧
      benchmark.Ready codecs word items { stage.facade with tuning } after ∧ calm after := by
  rcases exists_pushed listed ready.pipeline stage.machine with
    ⟨tuning, after, tuned, latency, told⟩
  rw [ready.build] at told
  rcases stays.told calms told with ⟨calms, same⟩
  have long : shift number ≤ layout.region.length.toNat := by
    have shifted := shift_le number
    have paged : 4096 ≤ layout.region.length.toNat := by
      rw [arranged.region]
      exact Nat.le_add_left _ _
    omega
  have skipped : (Cursor.start layout.region.length.toNat).skip (shift number) =
      (.ok (), (Cursor.start layout.region.length.toNat).advance (shift number)) :=
    if_pos long
  refine ⟨_, after.write layout.region.address (List.replicate layout.region.length.toNat 0),
    bind_eq_ok_iff.mpr ⟨_, tuned, bind_eq_ok_iff.mpr ⟨_, congrArg proceedFault skipped, rfl⟩⟩, ?_,
    stays.of_unit calms rfl⟩
  have cleared : benchmark.Ready codecs word items stage.facade
      (after.write layout.region.address (List.replicate layout.region.length.toNat 0)) := by
    refine ready.of_agree ?_
    rw [← same]
    apply Memory.agree_write after.memory (List.length_replicate.le)
    rintro address ⟨other, member, covered⟩ inside
    have apart := (List.pairwise_cons.mp (List.pairwise_append.mp arranged.apart).2.1).1
    exact apart _ (List.mem_map_of_mem member) address inside covered
  exact { cleared with latency := latency.trans ready.latency }

end Tuned

/-- A simulated device is at rest at the next point, too. -/
theorem exists_tuned (arranged : benchmark.Arranged corpus word layout items)
    {stage : Stage Simulated}
    (sound : benchmark.Sound codecs word items stage.facade stage.machine) {point : Point}
    (listed : point ∈ benchmark.grid.points benchmark.pipeline) (number : Nat) :
    ∃ facade after, benchmark.move codecs layout stage (.tune number point) =
        .ok (⟨facade, after, point,
          (Cursor.start layout.region.length.toNat).advance (shift number)⟩, none) ∧
      benchmark.Sound codecs word items facade after := by
  rcases exists_readied arranged (Machine.stays_rested codecs _) sound.toReady sound.rested listed
    number with ⟨tuning, after, tuned, ready, rested⟩
  exact ⟨_, after, tuned, ready, sound.waits, rested⟩

end Benchmark

end RoccCodec
