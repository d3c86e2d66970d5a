import RoccCodec.Proofs.Benchmark.Moves

namespace RoccCodec

/-!
# The walk through a benchmark

A benchmark makes one request for every point of its grid and every input, in this
order.  What every accelerator has in common is the way through the region: the
windows of a point always fit, shifted as they are.  What becomes of a request is
a matter of the accelerator, and so is what a host can rely on before the next one
(`Benchmark.Course`).  `Benchmark.Walks` describes a run by its moves, apart from the
clock.

On a simulated device nothing on the way is refused and every output is right: the
scratch buffers hold the longest input, and no request spoils the source of another.
-/

namespace Benchmark

/-- Moves that are made one after the other, and the records that are left of them,
without the times to be measured. -/
inductive Walks {υ : Type} [Accelerator υ] (codecs : Codecs) (benchmark : Benchmark)
    (layout : Layout) : Stage υ → List Move → List Record → Stage υ → Prop
  | done {stage : Stage υ} : Walks codecs benchmark layout stage [] [] stage
  | move {stage middle last : Stage υ} {next : Move} {rest : List Move}
    {record : Option Record} {records : List Record}
    (moved : benchmark.move codecs layout stage next = .ok (middle, record))
    (walks : Walks codecs benchmark layout middle rest records last) :
    Walks codecs benchmark layout stage (next :: rest) (record.toList ++ records) last

/-- The time by which the device holds up every request. -/
def holdUp (benchmark : Benchmark) : Nat :=
  benchmark.options.backend.delay { Tuning.powerOn with latency := benchmark.injected }

/-- Only the latency holds requests up. -/
theorem Ready.delay {υ : Type} {codecs : Codecs} {benchmark : Benchmark} {word : UInt64}
    {items : List Item} {facade : Facade} {machine : Machine υ}
    (ready : benchmark.Ready codecs word items facade machine) :
    benchmark.options.backend.delay facade.tuning = benchmark.holdUp := by
  have latency := ready.latency
  unfold holdUp Backend.delay Tuning.delay
  rw [latency]

/-- What the records of a benchmark say: for every point and then for every sample,
whether the output was right. -/
def outcomes (verified : Bool) (benchmark : Benchmark) (corpus : Corpus) :
    List (String × Point × Bool) :=
  (benchmark.grid.points benchmark.pipeline).flatMap fun point =>
    corpus.samples.map fun sample => (sample.name, point, verified)

/-- What the records of a benchmark are to say: for every point and then for every
sample, that the output was right. -/
def entries (benchmark : Benchmark) (corpus : Corpus) : List (String × Point × Bool) :=
  (benchmark.grid.points benchmark.pipeline).flatMap fun point =>
    corpus.samples.map fun sample => (sample.name, point, true)

theorem outcomes_true (benchmark : Benchmark) (corpus : Corpus) :
    outcomes true benchmark corpus = benchmark.entries corpus :=
  rfl

theorem length_outcomes (verified : Bool) (benchmark : Benchmark) (corpus : Corpus) :
    (outcomes verified benchmark corpus).length = (benchmark.entries corpus).length := by
  simp [outcomes, entries]

section Course

variable {υ : Type} [Accelerator υ] {codecs : Codecs} {benchmark : Benchmark} {corpus : Corpus}
  {layout : Layout} {items : List Item} {stage middle last : Stage υ} {word : UInt64}
  {moves later : List Move} {records more : List Record}

theorem Walks.append (walks : Walks codecs benchmark layout stage moves records middle)
    (following : Walks codecs benchmark layout middle later more last) :
    Walks codecs benchmark layout stage (moves ++ later) (records ++ more) last := by
  induction walks with
  | done => exact following
  | move moved walks hypothesis =>
      rw [List.append_assoc]
      exact .move moved (hypothesis following)

/-- What a host relies on when it has made a number of requests.  It can make the next
one, which has the given outcome, and it can go on to the next point. -/
structure Course (codecs : Codecs) (benchmark : Benchmark) (layout : Layout) (items : List Item)
    (verified : Bool) (holds : Nat → Facade → Machine υ → Prop) : Prop where
  request : ∀ {made : Nat} {stage : Stage υ} {item : Item},
    holds made stage.facade stage.machine → item ∈ items →
    stage.cursor.rest.offset + stage.cursor.remaining = layout.region.length.toNat →
    Region.padded item.room ≤ stage.cursor.remaining →
    ∃ after record, benchmark.move codecs layout stage (.request item) =
        .ok ({ stage with
          machine := after
          cursor := stage.cursor.advance (Region.padded item.room) }, some record) ∧
      holds (made + 1) stage.facade after ∧
      entry record = (item.sample.name, stage.point, verified) ∧
      record.elapsed = benchmark.holdUp
  tune : ∀ {made : Nat} {stage : Stage υ} {point : Point},
    holds made stage.facade stage.machine → point ∈ benchmark.grid.points benchmark.pipeline →
    ∀ number, ∃ facade after, benchmark.move codecs layout stage (.tune number point) =
        .ok (⟨facade, after, point,
          (Cursor.start layout.region.length.toNat).advance (shift number)⟩, none) ∧
      holds made facade after

variable {verified : Bool} {holds : Nat → Facade → Machine υ → Prop} {made : Nat}

/-- The requests of a point find their windows one behind the other. -/
theorem Course.exists_requests
    (course : Course codecs benchmark layout items verified holds)
    (held : holds made stage.facade stage.machine) {chosen : List Item}
    (listed : ∀ item ∈ chosen, item ∈ items)
    (inside : stage.cursor.rest.offset + stage.cursor.remaining = layout.region.length.toNat)
    (roomy : (chosen.map fun item => Region.padded item.room).sum ≤ stage.cursor.remaining) :
    ∃ last records, Walks codecs benchmark layout stage (chosen.map .request) records last ∧
      holds (made + records.length) last.facade last.machine ∧
      records.map entry = (chosen.map fun item => (item.sample.name, stage.point, verified)) ∧
      ∀ record ∈ records, record.elapsed = benchmark.holdUp := by
  -- What is left of the region has room for the windows of the items that are left.
  induction chosen generalizing stage made with
  | nil => exact ⟨stage, [], .done, held, rfl, by simp⟩
  | cons item rest hypothesis =>
      rw [List.map_cons, List.sum_cons] at roomy
      have window : Region.padded item.room ≤ stage.cursor.remaining := by omega
      rcases course.request held (listed item List.mem_cons_self) inside window with
        ⟨after, record, moved, next, said, time⟩
      rcases @hypothesis { stage with
          machine := after
          cursor := stage.cursor.advance (Region.padded item.room) } _ next
        (fun other member => listed other (List.mem_cons_of_mem _ member))
        ((Cursor.precedes_advance window).stop.trans inside)
        (by
          rw [Cursor.remaining_advance]
          omega) with ⟨last, records, walks, final, rest, all⟩
      refine ⟨last, record :: records, .move moved walks, ?_, ?_, ?_⟩
      · rw [List.length_cons, Nat.add_comm records.length 1, ← Nat.add_assoc]
        exact final
      · rw [List.map_cons, List.map_cons, said, rest]
      · intro other member
        rcases List.mem_cons.mp member with rfl | later
        · exact time
        · exact all other later

/-- The windows of a point take up the region except for a page. -/
theorem Arranged.sum_padded (arranged : benchmark.Arranged corpus word layout items) :
    (items.map fun item => Region.padded item.room).sum + 4096 = layout.region.length.toNat := by
  have windows : (items.map fun item => Region.padded item.room) =
      corpus.samples.map fun sample => Region.padded (benchmark.need sample) := by
    rw [← arranged.samples, List.map_map]
    exact List.map_congr_left fun item member =>
      congrArg Region.padded (arranged.rooms item member)
  rw [windows, arranged.region, regionLength]

/-- The moves of some points, with their numbers. -/
theorem Course.exists_rounds (course : Course codecs benchmark layout items verified holds)
    (arranged : benchmark.Arranged corpus word layout items)
    (held : holds made stage.facade stage.machine) {rounds : List (Point × Nat)}
    (listed : ∀ round ∈ rounds, round.1 ∈ benchmark.grid.points benchmark.pipeline) :
    ∃ last records, Walks codecs benchmark layout stage
        (rounds.flatMap fun round => .tune round.2 round.1 :: items.map .request) records last ∧
      holds (made + records.length) last.facade last.machine ∧
      records.map entry = (rounds.flatMap fun round =>
        corpus.samples.map fun sample => (sample.name, round.1, verified)) ∧
      ∀ record ∈ records, record.elapsed = benchmark.holdUp := by
  induction rounds generalizing stage made with
  | nil => exact ⟨stage, [], .done, held, rfl, by simp⟩
  | cons round rest hypothesis =>
      rcases course.tune held (listed round List.mem_cons_self) round.2 with
        ⟨facade, after, tuned, ready⟩
      have total := arranged.sum_padded
      have shifted := shift_le round.2
      have skipped : shift round.2 ≤ (Cursor.start layout.region.length.toNat).remaining := by
        rw [Cursor.remaining_start]
        omega
      rcases @Course.exists_requests υ _ codecs benchmark layout items ⟨facade, after, round.1,
          (Cursor.start layout.region.length.toNat).advance (shift round.2)⟩ verified holds made
        course ready items (fun item member => member)
        ((Cursor.precedes_advance skipped).stop.trans (Nat.zero_add _))
        (by
          rw [Cursor.remaining_advance, Cursor.remaining_start]
          omega) with ⟨middle, records, requests, between, said, times⟩
      rcases hypothesis between fun other member => listed other (List.mem_cons_of_mem _ member)
        with ⟨last, more, walks, final, others, all⟩
      refine ⟨last, records ++ more, .append (.move tuned requests) walks, ?_, ?_, ?_⟩
      · rw [List.length_append, ← Nat.add_assoc]
        exact final
      · rw [List.map_append, said, others, List.flatMap_cons, ← arranged.samples, List.map_map]
        rfl
      · intro record member
        exact (List.mem_append.mp member).elim (times record) (all record)

/-- All moves of a benchmark can be made, and they leave a record for every request. -/
theorem Course.exists_walks (course : Course codecs benchmark layout items verified holds)
    (arranged : benchmark.Arranged corpus word layout items)
    (held : holds 0 stage.facade stage.machine) :
    ∃ last records, Walks codecs benchmark layout stage (benchmark.moves items) records last ∧
      holds records.length last.facade last.machine ∧
      records.map entry = outcomes verified benchmark corpus ∧
      ∀ record ∈ records, record.elapsed = benchmark.holdUp := by
  rcases @Course.exists_rounds υ _ codecs benchmark corpus layout items stage word verified holds 0
    course arranged held (benchmark.grid.points benchmark.pipeline).zipIdx (fun round member => by
      have named := List.mem_map_of_mem (f := Prod.fst) member
      rwa [List.zipIdx_map_fst] at named) with ⟨last, records, walks, final, said, times⟩
  rw [Nat.zero_add] at final
  refine ⟨last, records, walks, final, said.trans ?_, times⟩
  unfold outcomes
  rw [← List.zipIdx_map_fst 0 (benchmark.grid.points benchmark.pipeline), List.flatMap_map,
    List.zipIdx_map_fst]

end Course

variable {codecs : Codecs} {benchmark : Benchmark} {corpus : Corpus} {layout : Layout}
  {items : List Item} {stage : Stage Simulated} {word : UInt64}

/-- A simulated device is at rest between its requests, and serves all of them. -/
theorem sound_course (faithful : codecs.Faithful) (feasible : benchmark.Feasible codecs corpus)
    (arranged : benchmark.Arranged corpus word layout items) :
    Course codecs benchmark layout items true fun _ => benchmark.Sound codecs word items where
  request sound member inside roomy := by
    rcases exists_request faithful feasible arranged sound member inside roomy with
      ⟨after, record, moved, next, said, time⟩
    exact ⟨after, record, moved, next, said, time.trans sound.toReady.delay⟩
  tune sound listed := exists_tuned arranged sound listed

/-- All moves of a benchmark can be made, and they leave the records they are to leave. -/
theorem exists_walks (faithful : codecs.Faithful) (feasible : benchmark.Feasible codecs corpus)
    (arranged : benchmark.Arranged corpus word layout items)
    (sound : benchmark.Sound codecs word items stage.facade stage.machine) :
    ∃ last records, Walks codecs benchmark layout stage (benchmark.moves items) records last ∧
      records.map entry = benchmark.entries corpus ∧
      ∀ record ∈ records, record.elapsed = benchmark.holdUp := by
  rcases (sound_course faithful feasible arranged).exists_walks arranged sound with
    ⟨last, records, walks, _, said, times⟩
  exact ⟨last, records, walks, said.trans (outcomes_true _ _), times⟩

end Benchmark

end RoccCodec
