import Mathlib.Algebra.Ring.Nat
import RoccCodec.Proofs.Calls
import RoccCodec.Proofs.Codec.Incompressible

namespace RoccCodec

/-!
# What a completion word tells

A unit stores the whole count of bytes, and the host reads as many low bits of
it as the function table of the pipeline says.  The count survives exactly if
these bits hold it and it is not zero.  Every compressor of a combined build
reads 32 bits, and nothing limits the source it is given: a larger output is
reported modulo 2^32, and one of a multiple of 2^32 bytes is never seen at all.
No codec that gives its sources back keeps clear of such outputs
(`Facade.misreports_long_output`).  The stand-alone compressor reads all 64 bits,
and a decompression only sets a flag.
-/

/-- How many low bits of a word are read. -/
def SignalWidth.bits : SignalWidth → Nat
  | .bits64 => 64
  | .bits32 => 32
  | .bits8 => 8

namespace Completion

/-- Reading in a width is taking the remainder. -/
theorem toNat_value (completion : Completion) :
    completion.value.toNat = completion.raw.toNat % 2 ^ completion.width.bits := by
  rcases completion with ⟨raw, width⟩
  cases width with
  | bits64 => exact (Nat.mod_eq_of_lt raw.toNat_lt).symm
  | bits32 =>
      change (raw &&& 0xFFFFFFFF).toNat = _
      rw [UInt64.toNat_and]
      exact Nat.and_two_pow_sub_one_eq_mod raw.toNat 32
  | bits8 =>
      change (raw &&& 0xFF).toNat = _
      rw [UInt64.toNat_and]
      exact Nat.and_two_pow_sub_one_eq_mod raw.toNat 8

theorem produced_eq_value {completion : Completion} (wide : completion.width ≠ .bits8) :
    completion.produced = completion.value := by
  unfold produced
  cases width : completion.width with
  | bits64 => rfl
  | bits32 => rfl
  | bits8 => contradiction

theorem done_iff_produced {completion : Completion} (wide : completion.width ≠ .bits8) :
    completion.done = true ↔ completion.produced.toNat ≠ 0 := by
  rw [done_eq_true_iff, produced_eq_value wide, ne_eq, ne_eq, ← UInt64.toNat_inj]
  rfl

/-- A count that was stored is read modulo the bits of the width. -/
theorem toNat_produced_ofNat {width : SignalWidth} (wide : width ≠ .bits8) (size : Nat) :
    (Completion.mk (UInt64.ofNat size) width).produced.toNat = size % 2 ^ width.bits := by
  rw [produced_eq_value wide, toNat_value, UInt64.toNat_ofNat']
  have divides : 2 ^ width.bits ∣ 2 ^ 64 := by
    cases width <;> decide
  exact Nat.mod_mod_of_dvd size divides

theorem toNat_produced {width : SignalWidth} {size : Nat} (wide : width ≠ .bits8)
    (small : size < Codecs.sizeLimit) :
    (Completion.mk (UInt64.ofNat size) width).produced.toNat = size := by
  have room : Codecs.sizeLimit ≤ 2 ^ width.bits := by
    cases width with
    | bits64 => decide
    | bits32 => decide
    | bits8 => contradiction
  rw [toNat_produced_ofNat wide, Nat.mod_eq_of_lt (small.trans_le room)]

/-- The completion says that the request is done, and it says of a compression
how long its output is. -/
def Tells (completion : Completion) (pipeline : Pipeline) (output : List UInt8) : Prop :=
  completion.done = true ∧
    if pipeline.isCompression then completion.produced.toNat = output.length
    else completion.success = true

end Completion

/-- The stand-alone compressor fills in the whole word, the combined one half of it. -/
theorem Channel.width_of_compression {channel : Channel}
    (compresses : channel.pipeline.isCompression = true) :
    channel.width = if channel.build = .snappyStandalone then .bits64 else .bits32 := by
  rcases channel with ⟨build, pipeline, table, present⟩
  cases build <;> cases pipeline <;>
    simp only [Build.table?, Option.some.injEq, reduceCtorEq] at present <;>
    simp only [Pipeline.isCompression, Bool.false_eq_true] at compresses
  all_goals
    subst present
    rfl

theorem Channel.width_ne_bits8 {channel : Channel}
    (compresses : channel.pipeline.isCompression = true) : channel.width ≠ .bits8 := by
  rw [width_of_compression compresses]
  split <;> simp

namespace Facade

variable {codecs : Codecs} {facade : Facade} {task : Task facade.channel.pipeline}
  {machine : Machine Simulated} {output : List UInt8}

/-- The width of the pipeline has room for the size of the output. -/
def Countable (facade : Facade) (output : List UInt8) : Prop :=
  facade.channel.pipeline.isCompression = true → facade.channel.build ≠ .snappyStandalone →
    output.length < 2 ^ 32

theorem countable_iff (compresses : facade.channel.pipeline.isCompression = true)
    (held : output.length < 2 ^ 64) :
    facade.Countable output ↔ output.length < 2 ^ facade.channel.width.bits := by
  rw [Countable, Channel.width_of_compression compresses]
  by_cases alone : facade.channel.build = .snappyStandalone
  · simpa [alone, SignalWidth.bits] using held
  · simp [compresses, alone, SignalWidth.bits]

/-- The word of a job that has succeeded tells of its output exactly if the
width has room for the size. -/
theorem tells_iff (held : output.length < 2 ^ 64)
    (filled : facade.channel.pipeline.isCompression = true → output ≠ []) :
    (Completion.mk ((facade.jobOf task machine).value output) facade.channel.width).Tells
      facade.channel.pipeline output ↔ facade.Countable output := by
  rw [jobOf_value, Completion.Tells]
  cases compresses : facade.channel.pipeline.isCompression with
  | false =>
      have flagged : (Completion.mk 1 facade.channel.width).done = true := by
        cases facade.channel.width <;> decide
      simp [Completion.success, Countable, compresses, flagged]
  | true =>
      have wide := Channel.width_ne_bits8 compresses
      have full := List.length_pos_iff.mpr (filled compresses)
      rw [if_pos rfl, if_pos rfl, Completion.done_iff_produced wide,
        Completion.toNat_produced_ofNat wide, countable_iff compresses held,
        Nat.mod_eq_iff_lt (Nat.two_pow_pos _).ne']
      constructor
      · exact And.right
      · intro small
        refine ⟨?_, small⟩
        rw [Nat.mod_eq_of_lt small]
        exact full.ne'

/-- Once the device has published the result of a job that has succeeded, the
word tells the host of it, and so does the completion that a call reports after a
wait that saw the word set, or did not skip and gave the worker its time: always
for a decompression and for the stand-alone compressor, and for the compressors
of a combined build exactly if the output is shorter than 2^32 bytes. -/
theorem reports_output (bounded : codecs.Bounded) (filled : codecs.Filled)
    (exclusive : facade.Exclusive codecs task machine) {sent : Machine Simulated}
    (accepted : facade.dispatch task machine = (.ok (), sent))
    (made : facade.output? task machine = some output) {steps : List (HostStep Simulated)}
    (passive : ∀ step ∈ steps, step.isPassive = true) :
    (∀ last, sent.Idles last → last.unit.device.pending = 0 →
      ((facade.channel.completion facade.word last).Tells facade.channel.pipeline output ↔
        facade.Countable output)) ∧
    (∃ completion after, facade.run task machine = (.ok completion, facade, after) ∧
      (completion.done = true ∨ facade.policy ≠ .skip ∧
          machine.unit.mode.Serves (machine.unit.device.pending + 3) →
        (completion.Tells facade.channel.pipeline output ↔ facade.Countable output))) ∧
    ∀ observations completion next after,
      facade.scope task steps machine = (.ok (observations, completion), next, after) →
      completion.done = true ∨ facade.policy ≠ .skip ∧
        machine.unit.mode.Serves (machine.unit.device.pending + 3) →
      (completion.Tells facade.channel.pipeline output ↔ facade.Countable output) := by
  rcases exclusive.flight_of_dispatch bounded accepted with ⟨most, room, fits, flight⟩
  rcases flight.run accepted with ⟨ran, afterRun, runs, returned⟩
  rcases flight.scope accepted passive with ⟨final, afterScope, left, scopes⟩
  have coded := made
  rw [output?, exclusive.equipped] at coded
  have held : output.length < 2 ^ 64 :=
    ((fits output made).trans room.destination).trans_lt task.destination.length.toNat_lt
  have told := @tells_iff facade task machine output held
    (fun compresses => filled _ _ output compresses coded)
  have value : (exclusive.call room fits).outcome.getD 0 =
      (facade.jobOf task machine).value output := by
    simp [Exclusive.call, made]
  rw [← value] at told
  refine ⟨?_, ⟨ran, afterRun, runs, ?_⟩, ?_⟩
  · intro last idles rest
    have loaded := ((flight.idles idles).serving.of_pending_eq_zero rest).1
    unfold Channel.completion Machine.load
    rw [← (exclusive.call room fits).word, loaded]
    exact told
  · intro trusts
    rw [(returned.waited ran rfl trusts).2]
    exact told
  · intro observations completion next after result trusts
    rcases scopes with aborted | ⟨seen, ended⟩
    · cases aborted.symm.trans result
    · cases ended.symm.trans result
      rw [(left.waited final rfl trusts).2]
      exact told

/-- Three bytes make five, and both the host work and the caller are told so. -/
theorem reports_output_snappy :
    let facade : Facade :=
      ⟨⟨.snappyStandalone, .snappyCompress, Build.standaloneSnappyCompress, rfl⟩, .powerOn,
        .bounded 2, 0x100⟩
    let machine : Machine Simulated :=
      ⟨.powerOn .snappyStandalone .inline, Memory.blank.write 0x1000 [1, 2, 3], [], 0⟩
    ∃ completion after, facade.run (.snappyCompress ⟨0x1000, 3⟩ ⟨0x2000, 64⟩) machine =
        (.ok completion, facade, after) ∧
      completion.Tells .snappyCompress [3, 8, 1, 2, 3] := by
  intro facade machine
  have accepted : facade.dispatch (.snappyCompress ⟨0x1000, 3⟩ ⟨0x2000, 64⟩) machine =
      (.ok (), _) := rfl
  have exclusive : facade.Exclusive .software (.snappyCompress ⟨0x1000, 3⟩ ⟨0x2000, 64⟩) machine :=
    ⟨rfl, rfl, Buffer.pairwise_apart (by decide), Device.spares_of_pending_eq_zero rfl _ _⟩
  have made : facade.output? (.snappyCompress ⟨0x1000, 3⟩ ⟨0x2000, 64⟩) machine =
      some [3, 8, 1, 2, 3] := by decide +kernel
  have passive : ∀ step ∈ ([.poll] : List (HostStep Simulated)), step.isPassive = true := by
    simp [HostStep.isPassive]
  rcases (reports_output Codecs.software_bounded Codecs.software_filled exclusive accepted made
    passive).2.1 with ⟨completion, after, ran, told⟩
  refine ⟨completion, after, ran, (told (Or.inr ⟨by decide, trivial⟩)).mpr ?_⟩
  exact fun _ combined => absurd rfl combined

/-- An output for whose size a word of 32 bits has no room is written, and misreported. -/
theorem Exclusive.misreports (exclusive : facade.Exclusive codecs task machine)
    (requested : task.request machine.memory = .ok task.message)
    (made : facade.output? task machine = some output)
    (room : task.Holds (if facade.channel.pipeline.isCompression then task.source.length.toNat
      else output.length) output.length)
    (waits : facade.policy ≠ .skip)
    (serves : machine.unit.mode.Serves (machine.unit.device.pending + 3))
    (compresses : facade.channel.pipeline.isCompression = true)
    (combined : facade.channel.build ≠ .snappyStandalone) (long : 2 ^ 32 ≤ output.length) :
    ∃ completion after, facade.run task machine = (.ok completion, facade, after) ∧
      after.read task.destination.address output.length = output ∧
      completion.produced.toNat = output.length % 2 ^ 32 ∧
      (completion.done = true ↔ ¬ 2 ^ 32 ∣ output.length) ∧
      ¬ completion.Tells facade.channel.pipeline output := by
  rcases exclusive.run requested made room waits serves with ⟨after, ran, content, _⟩
  rw [jobOf_value, if_pos compresses] at ran
  have width : facade.channel.width = .bits32 := by
    rw [Channel.width_of_compression compresses, if_neg combined]
  have wide := Channel.width_ne_bits8 compresses
  have produced := Completion.toNat_produced_ofNat wide output.length
  have done := @Completion.done_iff_produced ⟨UInt64.ofNat output.length, facade.channel.width⟩ wide
  rw [width] at ran produced done
  refine ⟨_, after, ran, content, produced, ?_, ?_⟩
  · rw [done, produced, Nat.dvd_iff_mod_eq_zero]
    rfl
  · rintro ⟨_, told⟩
    rw [if_pos compresses, produced] at told
    have less := Nat.mod_lt output.length (Nat.two_pow_pos SignalWidth.bits32.bits)
    rw [told] at less
    exact Nat.not_lt.mpr long less

/-- The combined compressor is given a source of 2^32 bytes, with as much room for the
output as its bound asks for.  If the codec does not make the source shorter, the output
is in the destination and its size is reported modulo 2^32; and every codec that gives
its sources back has such a source. -/
theorem misreports_long_output :
    let facade : Facade :=
      ⟨⟨.compressor, .zstdCompress, Build.compressorZstdCompress, rfl⟩, .powerOn, .spin, 0x100⟩
    let task : Task .zstdCompress := .zstdCompress ⟨0x10000, 0x100000000⟩
      ⟨0x400000000, 0x100000000⟩ ⟨0x600000000, 0x100000000⟩ ⟨0x200000000, 0x200000000⟩ 3
    (∀ (codecs : Codecs) (source output : List UInt8), codecs.Bounded →
      source.length = 2 ^ 32 → codecs.compress? 3 .zstd source = some output →
      2 ^ 32 ≤ output.length →
      ∃ completion after, facade.run task ⟨Simulated.powerOnWith codecs .compressor .inline,
          Memory.blank.write 0x10000 source, [], 0⟩ = (.ok completion, facade, after) ∧
        after.read 0x200000000 output.length = output ∧
        completion.produced.toNat = output.length % 2 ^ 32 ∧
        (completion.done = true ↔ ¬ 2 ^ 32 ∣ output.length) ∧
        ¬ completion.Tells .zstdCompress output) ∧
    (∀ codecs : Codecs, codecs.Restores .zstd → ∃ source output,
      source.length = 2 ^ 32 ∧ codecs.compress? 3 .zstd source = some output ∧
        2 ^ 32 ≤ output.length) ∧
    Codecs.software.Bounded ∧ Codecs.software.Restores .zstd := by
  intro facade task
  have bound : Algorithm.bound .zstd (2 ^ 32) = .ok 0x101000000 := Bound.zstd_eq (by decide)
  refine ⟨?_, fun codecs restores => restores.exists_incompressible 3 bound,
    Codecs.software_bounded, Codecs.software_restores⟩
  intro codecs source output bounded length coded long
  let machine : Machine Simulated :=
    ⟨.powerOnWith codecs .compressor .inline, Memory.blank.write 0x10000 source, [], 0⟩
  have read : Task.contents machine.memory task.source = source := by
    have whole : task.source.length.toNat = source.length := by
      rw [length]
      decide
    rw [Task.contents, whole]
    exact Memory.read_write Memory.blank 0x10000 source
  have made : facade.output? task machine = some output := by
    rw [output?, read]
    exact coded
  have fits : output.length ≤ 0x101000000 := by
    rw [← length] at bound
    exact @bounded.compressed (facade.jobOf task machine) source output _ rfl bound coded
  have room : task.Holds (2 ^ 32) 0x101000000 := ⟨by simp [task, Task.scratch], by decide⟩
  have exclusive : facade.Exclusive codecs task machine :=
    ⟨rfl, rfl, Buffer.pairwise_apart (by decide), Device.spares_of_pending_eq_zero rfl _ _⟩
  exact exclusive.misreports ((Task.request_of_compression rfl).mpr ⟨rfl, _, bound, room⟩) made
    ⟨room.scratch, fits.trans room.destination⟩ (by decide) trivial rfl (by decide) long

end Facade

end RoccCodec
