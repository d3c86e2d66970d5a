import Mathlib.Order.Monotone.Defs
import RoccCodec.Proofs.Benchmark.Walk

namespace RoccCodec

/-!
# Runs that come to their end

The times that a benchmark measures are added up in 64 bits.  What the clock has shown
in the meantime bounds their sum, so that a sum which does not fit takes a clock that
goes back or leaves the 64 bits itself (`Benchmark.Timely`).  With a better clock every
benchmark that can be run is complete: it leaves one verified record for every point
and every sample, in this order (`Benchmark.runs_complete`).
-/

/-! ## Totals -/

namespace Totals

theorem update_of_lt {totals : Totals} {record : Record}
    (fits : totals.sum + record.elapsed < Length.limit) :
    ∃ next, totals.update record = .ok next ∧ next.label = totals.label ∧
      next.records = totals.records ++ [record] ∧ next.sum = totals.sum + record.elapsed :=
  ⟨_, bind_eq_ok_iff.mpr ⟨_, Length.add_of_lt fits, rfl⟩, rfl, rfl, rfl⟩

/-- Records are all taken in, unless their times leave 64 bits. -/
theorem foldlM_update (totals : Totals) (records : List Record) :
    (∃ last, records.foldlM update totals = .ok last ∧ last.label = totals.label ∧
      last.records = totals.records ++ records) ∨
    records.foldlM update totals = .error .addition ∧
      Length.limit ≤ totals.sum + (records.map Record.elapsed).sum := by
  induction records generalizing totals with
  | nil => exact .inl ⟨totals, rfl, rfl, (List.append_nil _).symm⟩
  | cons record rest hypothesis =>
      rw [List.foldlM_cons, List.map_cons, List.sum_cons, ← Nat.add_assoc]
      by_cases fits : totals.sum + record.elapsed < Length.limit
      · rcases update_of_lt fits with ⟨next, updated, named, added, sum⟩
        rw [updated, ← sum]
        rcases hypothesis next with ⟨last, folded, label, all⟩ | late
        · refine .inl ⟨last, folded, label.trans named, ?_⟩
          rw [all, added, List.append_assoc, List.singleton_append]
        · exact .inr late
      · refine .inr ⟨?_, by omega⟩
        have refused : totals.update record = .error .addition := by
          unfold update Length.add
          rw [if_neg fits]
          rfl
        rw [refused]
        rfl

theorem sum_elapsed {records : List Record} {time : Nat}
    (held : ∀ record ∈ records, record.elapsed = time) :
    (records.map Record.elapsed).sum = records.length * time := by
  have equal : records.map Record.elapsed = List.replicate records.length time := by
    rw [List.map_congr_left held, List.map_const']
  rw [equal, List.sum_replicate_nat]

end Totals

theorem Backend.exists_target {outfit : Outfit} {backend : Backend} {work : Nat}
    (simulated : backend.isSimulated = true) (serves : (Mode.threaded outfit.schedule).Serves work)
    (build : Build) :
    ∃ mode : Mode,
      backend.target outfit build = .ok (.simulated (.powerOnWith outfit.codecs build mode)) ∧
        mode.Serves work := by
  cases backend with
  | inline => exact ⟨.inline, rfl, trivial⟩
  | threaded => exact ⟨.threaded outfit.schedule, rfl, serves⟩
  | absent => cases simulated
  | hardware => cases simulated

theorem Invocation.mem_sweepBenchmarks {builds : List Build} {options : DeviceOptions}
    {grid : TuningGrid} {benchmark : Benchmark} :
    benchmark ∈ sweepBenchmarks builds options grid ↔ ∃ build ∈ builds,
      ∃ pipeline ∈ build.pipelines, benchmark = ⟨pipeline, { options with build }, grid⟩ := by
  simp only [sweepBenchmarks, List.mem_flatMap, List.mem_map, eq_comm]

namespace Benchmark

/-! ## Clocks -/

/-- A clock with these readings, one for each time it is looked at. -/
def clock (readings : Nat → Nat) : StateM Nat Nat := fun number => (readings number, number + 1)

/-- What a computation comes to that starts when the clock has been looked at so often. -/
def clocked {α : Type} (computation : ExceptT RunError (StateM Nat) α) (number : Nat) :
    Except RunError α × Nat :=
  computation.run.run number

section Clocked

variable {α β : Type} {computation : ExceptT RunError (StateM Nat) α} {number later : Nat}

@[simp] theorem clocked_lift (result : Except RunError α) (number : Nat) :
    clocked (liftM result) number = (result, number) :=
  rfl

@[simp] theorem clocked_clock (readings : Nat → Nat) (number : Nat) :
    clocked (liftM (clock readings)) number = (.ok (readings number), number + 1) :=
  rfl

theorem clocked_bind {value : α} (came : clocked computation number = (.ok value, later))
    (next : α → ExceptT RunError (StateM Nat) β) :
    clocked (computation >>= next) number = clocked (next value) later := by
  unfold clocked at came ⊢
  rw [ExceptT.run_bind, StateT.run_bind, came]
  rfl

theorem clocked_bind_error {failure : RunError}
    (came : clocked computation number = (.error failure, later))
    (next : α → ExceptT RunError (StateM Nat) β) :
    clocked (computation >>= next) number = (.error failure, later) := by
  unfold clocked at came ⊢
  rw [ExceptT.run_bind, StateT.run_bind, came]
  rfl

end Clocked

variable {υ : Type} [Accelerator υ] {codecs : Codecs} {benchmark : Benchmark} {corpus : Corpus}
  {layout : Layout} {stage last : Stage υ} {moves : List Move} {records : List Record}

/-- A walk by the clock: the records say the same, and their times are below what the
clock has shown and what the device has added. -/
theorem Walks.timed (walks : Walks codecs benchmark layout stage moves records last)
    (readings : Nat → Nat) (number : Nat) :
    ∃ measured later, clocked (benchmark.timed codecs (clock readings) layout stage moves) number =
        (.ok (last, measured), later) ∧
      measured.map entry = records.map entry ∧
      (Monotone readings → readings number + (measured.map Record.elapsed).sum ≤
        readings later + (records.map Record.elapsed).sum) := by
  induction walks generalizing number with
  | done => exact ⟨[], number, rfl, rfl, fun _ => Nat.le_refl _⟩
  | @move stage middle last next rest record records moved walks hypothesis =>
      rcases hypothesis (number + 2) with ⟨measured, later, timed, said, bounded⟩
      have whole : clocked (benchmark.timed codecs (clock readings) layout stage (next :: rest))
          number = (.ok (last, (record.map fun record => lasted record
            (readings (number + 1) - readings number)).toList ++ measured), later) := by
        unfold Benchmark.timed
        rw [clocked_bind (clocked_clock readings number), moved,
          clocked_bind (clocked_lift _ _), clocked_bind (clocked_clock readings _),
          clocked_bind timed]
        rfl
      refine ⟨_, later, whole, ?_, ?_⟩
      · rw [List.map_append, List.map_append, said]
        cases record <;> rfl
      · intro monotone
        have between := bounded monotone
        have first : readings number ≤ readings (number + 1) := monotone (Nat.le_succ _)
        have second : readings (number + 1) ≤ readings (number + 2) := monotone (Nat.le_succ _)
        rw [List.map_append, List.sum_append, List.map_append, List.sum_append]
        cases record with
        | none =>
            simp only [Option.map_none, Option.toList_none, List.map_nil, List.sum_nil]
            omega
        | some record =>
            have capped : (lasted record (readings (number + 1) - readings number)).elapsed ≤
                record.elapsed + (readings (number + 1) - readings number) :=
              Nat.min_le_left _ _
            simp only [Option.map_some, Option.toList_some, List.map_cons, List.map_nil,
              List.sum_cons, List.sum_nil]
            omega

/-! ## One benchmark -/

/-- The clock never goes back, and 64 bits hold what it shows together with the time by
which the device holds up the requests. -/
structure Timely (readings : Nat → Nat) (benchmark : Benchmark) (corpus : Corpus) : Prop where
  monotone : Monotone readings
  bounded : ∀ number,
    readings number + (benchmark.entries corpus).length * benchmark.holdUp < Length.limit

/-- The totals of a benchmark in which every request there is was made and verified. -/
structure Complete (benchmark : Benchmark) (corpus : Corpus) (totals : Totals) : Prop where
  label : totals.label = benchmark.label
  records : totals.records.map entry = benchmark.entries corpus

/-- A run comes to a good end, unless its clock was not in time: then the times may not
add up. -/
inductive Ends {α : Type} (timely : Prop) (good : α → Prop) : Except RunError α → Prop
  | well {value : α} (holds : good value) : Ends timely good (.ok value)
  | late (untimely : ¬ timely) : Ends timely good (.error (.failed (.overflow .addition)))

theorem Ends.of_timely {α : Type} {timely : Prop} {good : α → Prop} {outcome : Except RunError α}
    (ends : Ends timely good outcome) (holds : timely) :
    ∃ value, outcome = .ok value ∧ good value := by
  cases ends with
  | well fine => exact ⟨_, rfl, fine⟩
  | late untimely => exact (untimely holds).elim

theorem Ends.imp {α : Type} {timely : Prop} {good better : α → Prop} {outcome : Except RunError α}
    (ends : Ends timely good outcome) (more : ∀ value, good value → better value) :
    Ends timely better outcome := by
  cases ends with
  | well fine => exact .well (more _ fine)
  | late untimely => exact .late untimely

/-- A prepared benchmark whose moves can all be made comes to its end, and its records say
what those of its walk say. -/
theorem Walks.ends {unit : υ} {items : List Item}
    (walks : Walks codecs benchmark layout stage (benchmark.moves items) records last)
    (prepared : benchmark.prepare codecs corpus unit = .ok (layout, items, stage))
    (all : records.length = (benchmark.entries corpus).length)
    (held : ∀ record ∈ records, record.elapsed = benchmark.holdUp) (readings : Nat → Nat)
    (number : Nat) :
    Ends (Timely readings benchmark corpus)
      (fun result => result.1.label = benchmark.label ∧
        result.1.records.map entry = records.map entry)
      (clocked (benchmark.runOn codecs (clock readings) corpus unit) number).1 := by
  rcases walks.timed readings number with ⟨measured, later, timed, same, bounded⟩
  unfold runOn
  rw [prepared, clocked_bind (clocked_lift _ _), clocked_bind timed]
  dsimp only
  rcases Totals.foldlM_update (.start benchmark.label) measured with
    ⟨totals, folded, label, taken⟩ | ⟨folded, beyond⟩
  · have totaled : Totals.ofRecords benchmark.label measured = .ok totals := folded
    rw [totaled]
    refine .well ⟨label, ?_⟩
    change totals.records = [] ++ measured at taken
    rw [taken, List.nil_append, same]
  · have refused : Totals.ofRecords benchmark.label measured = .error .addition := folded
    rw [refused]
    refine .late fun timely => ?_
    have total : (records.map Record.elapsed).sum =
        (benchmark.entries corpus).length * benchmark.holdUp := by
      rw [Totals.sum_elapsed held, all]
    have least := bounded timely.monotone
    have most := timely.bounded later
    change Length.limit ≤ 0 + _ at beyond
    omega

/-- A benchmark that can be run comes to its end on every idle device of its build. -/
theorem runOn_ends (faithful : codecs.Faithful) (feasible : benchmark.Feasible codecs corpus)
    {unit : Simulated} (built : unit.device.build = benchmark.options.build)
    (equipped : unit.codecs = codecs) (serves : unit.mode.Serves 3)
    (rest : unit.device.pending = 0) (readings : Nat → Nat) (number : Nat) :
    Ends (Timely readings benchmark corpus) (fun result => benchmark.Complete corpus result.1)
      (clocked (benchmark.runOn codecs (clock readings) corpus unit) number).1 := by
  rcases exists_prepared faithful feasible built equipped serves rest with
    ⟨layout, items, stage, prepared, arranged, sound⟩
  rcases exists_walks faithful feasible arranged sound with ⟨last, records, walks, said, held⟩
  have all : records.length = (benchmark.entries corpus).length := by
    rw [← said, List.length_map]
  exact (walks.ends prepared all held readings number).imp fun result ⟨label, same⟩ =>
    ⟨label, same.trans said⟩

/-! ## Several benchmarks -/

/-- A run on a simulated backend is one on a device that has just been switched on. -/
theorem run_ends {outfit : Outfit} (faithful : outfit.codecs.Faithful)
    (serves : (Mode.threaded outfit.schedule).Serves 3)
    (simulated : benchmark.options.backend.isSimulated = true)
    (feasible : benchmark.Feasible outfit.codecs corpus) (readings : Nat → Nat) (number : Nat) :
    Ends (Timely readings benchmark corpus) (fun result => benchmark.Complete corpus result.1)
      (clocked (benchmark.run outfit (clock readings) corpus) number).1 := by
  rcases Backend.exists_target simulated serves benchmark.options.build with ⟨mode, target, serving⟩
  unfold run
  dsimp only
  rw [target, clocked_bind (clocked_lift _ _)]
  exact @runOn_ends outfit.codecs benchmark corpus faithful feasible
    (.powerOnWith outfit.codecs benchmark.options.build mode) rfl rfl serving rfl readings number

theorem mapM_ends {α β : Type} {timely : α → Prop} {good : α → β → Prop}
    {run : α → ExceptT RunError (StateM Nat) β} {inputs : List α}
    (each : ∀ input ∈ inputs, ∀ number,
      Ends (timely input) (good input) (clocked (run input) number).1) (number : Nat) :
    Ends (∀ input ∈ inputs, timely input) (List.Forall₂ good inputs)
      (clocked (inputs.mapM run) number).1 := by
  induction inputs generalizing number with
  | nil => exact .well .nil
  | cons input rest hypothesis =>
      have first := each input List.mem_cons_self number
      rcases ran : clocked (run input) number with ⟨outcome, later⟩
      rw [ran] at first
      rw [List.mapM_cons]
      cases first with
      | late untimely =>
          rw [clocked_bind_error ran]
          exact .late fun timely => untimely (timely input List.mem_cons_self)
      | well holds =>
          rw [clocked_bind ran]
          have others := hypothesis (fun input member => each input (List.mem_cons_of_mem _ member))
            later
          rcases continued : clocked (rest.mapM run) later with ⟨results, final⟩
          rw [continued] at others
          cases others with
          | late untimely =>
              rw [clocked_bind_error continued]
              exact .late fun timely => untimely fun input member =>
                timely input (List.mem_cons_of_mem _ member)
          | well rest =>
              rw [clocked_bind continued]
              exact .well (.cons holds rest)

/-- Runs on simulated devices are complete.  A benchmark of a pipeline that its build has, over
inputs whose bounds and buffers can be had at all, is refused nothing, whatever its points, its
latency and its spins are: it makes one request for every point of its grid and, within a
point, for every sample, and every output is verified.  This holds on any idle device.  A sweep
does so for every pipeline of every build in the order of the list.  What else may happen is
that a clock goes wrong, so that the times it measured leave 64 bits.  The codecs have to be
faithful, and a worker beside the host has to get on with a request while it is waited for. -/
theorem runs_complete {outfit : Outfit} (faithful : outfit.codecs.Faithful)
    (serves : (Mode.threaded outfit.schedule).Serves 3) (corpus : Corpus) (readings : Nat → Nat)
    (number : Nat) :
    (∀ (benchmark : Benchmark) (unit : Simulated), benchmark.Feasible outfit.codecs corpus →
      unit.device.build = benchmark.options.build → unit.codecs = outfit.codecs →
      unit.mode.Serves 3 → unit.device.pending = 0 →
      Ends (Timely readings benchmark corpus) (fun result => benchmark.Complete corpus result.1)
        (clocked (benchmark.runOn outfit.codecs (clock readings) corpus unit) number).1) ∧
    ∀ (builds : List Build) (options : DeviceOptions) (grid : TuningGrid),
      options.backend.isSimulated = true →
      (∀ benchmark ∈ Invocation.sweepBenchmarks builds options grid,
        benchmark.Feasible outfit.codecs corpus) →
      Ends (∀ benchmark ∈ Invocation.sweepBenchmarks builds options grid,
          Timely readings benchmark corpus)
        (List.Forall₂ (fun benchmark result => benchmark.Complete corpus result.1)
          (Invocation.sweepBenchmarks builds options grid))
        (clocked (runAll outfit (clock readings) corpus
          (Invocation.sweepBenchmarks builds options grid)) number).1 := by
  constructor
  · intro benchmark unit feasible built equipped serving rest
    exact runOn_ends faithful feasible built equipped serving rest readings number
  · intro builds options grid simulated feasible
    refine mapM_ends (fun benchmark member number => ?_) number
    refine run_ends faithful serves ?_ (feasible benchmark member) readings number
    rcases Invocation.mem_sweepBenchmarks.mp member with ⟨build, _, pipeline, _, rfl⟩
    exact simulated

/-- A word and an empty sample on a stand-alone compressor, and on all pipelines of the combined
builds, with a slow memory and few spins. -/
theorem runs_complete_word_and_empty :
    (∃ result,
      (clocked (runOn Codecs.software (clock fun number => min number 1000)
        ⟨.snappyCompress, ⟨.snappyStandalone, .inline, none, none⟩, ⟨[4096, 4096], [9, 10], 3⟩⟩
        ⟨[⟨"word", [1, 2, 3]⟩, ⟨"empty", []⟩]⟩ (Simulated.powerOn .snappyStandalone .inline)) 0).1 =
          .ok result ∧
      Complete
        ⟨.snappyCompress, ⟨.snappyStandalone, .inline, none, none⟩, ⟨[4096, 4096], [9, 10], 3⟩⟩
        ⟨[⟨"word", [1, 2, 3]⟩, ⟨"empty", []⟩]⟩ result.1) ∧
    ∃ results,
      (clocked (runAll .standard (clock fun number => min number 1000)
        ⟨[⟨"word", [1, 2, 3]⟩, ⟨"empty", []⟩]⟩
        (Invocation.sweepBenchmarks [.decompressor, .compressor]
          ⟨default, .threaded, some ⟨2, true⟩, some (.bounded 3)⟩ ⟨[65536, 4096], [9], 3⟩)) 0).1 =
          .ok results ∧
      List.Forall₂
        (fun benchmark result => Complete benchmark ⟨[⟨"word", [1, 2, 3]⟩, ⟨"empty", []⟩]⟩ result.1)
        (Invocation.sweepBenchmarks [.decompressor, .compressor]
          ⟨default, .threaded, some ⟨2, true⟩, some (.bounded 3)⟩ ⟨[65536, 4096], [9], 3⟩)
        results := by
  have prompt : ∀ number, 0 < Schedule.relaxed .retry number := fun _ => Nat.zero_lt_succ _
  have steady : Monotone fun number : Nat => min number 1000 := by
    intro first second below
    dsimp only
    omega
  rcases @runs_complete .standard Codecs.software_faithful (Mode.serves_of_pos prompt (by decide))
    ⟨[⟨"word", [1, 2, 3]⟩, ⟨"empty", []⟩]⟩ (fun number => min number 1000) 0 with ⟨one, all⟩
  have shown : ∀ number, min number 1000 + 8 < Length.limit := by
    intro number
    unfold Length.limit
    omega
  constructor
  · refine (one ⟨.snappyCompress, ⟨.snappyStandalone, .inline, none, none⟩,
      ⟨[4096, 4096], [9, 10], 3⟩⟩ (.powerOn .snappyStandalone .inline) (by decide +kernel) rfl rfl
      trivial rfl).of_timely ⟨steady, fun number => ?_⟩
    exact (Nat.add_le_add_left (by decide) _).trans_lt (shown number)
  · refine (all _ _ _ rfl (by decide +kernel)).of_timely fun benchmark member =>
      ⟨steady, fun number => ?_⟩
    have short : ∀ benchmark ∈ Invocation.sweepBenchmarks [.decompressor, .compressor]
        ⟨default, .threaded, some ⟨2, true⟩, some (.bounded 3)⟩ ⟨[65536, 4096], [9], 3⟩,
        (benchmark.entries ⟨[⟨"word", [1, 2, 3]⟩, ⟨"empty", []⟩]⟩).length * benchmark.holdUp ≤
          8 := by
      decide
    exact (Nat.add_le_add_left (short benchmark member) _).trans_lt (shown number)

end Benchmark

end RoccCodec
