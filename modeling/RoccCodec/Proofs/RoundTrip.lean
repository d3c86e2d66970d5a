import RoccCodec.Proofs.CompletionWord

namespace RoccCodec

/-!
# Compressing and decompressing again

A caller has a source compressed by one pipeline and the output decompressed
by another one of the same codec, on the same device or on a different one.
`Facade.round_trip` follows the source through both calls: the checks of the
driver, the commands, the decoding and staging of the units, the parameters
they have latched, the codec, the check of the declared size, and the
completion word in the width of its pipeline.

Nothing is assumed about what the devices have staged, latched, selected or
counted before.  The calls have their memory to themselves, which is what a
caller that hands out exclusive buffers promises.
-/

namespace Facade

/-- A task can be given to a facade in this state of the machine: its device is
of the build of the facade, its wait has no limit, and the memory of the call is
touched by no one else. -/
structure Ready (codecs : Codecs) (facade : Facade) (task : Task facade.channel.pipeline)
    (machine : Machine Simulated) : Prop where
  built : machine.unit.device.build = facade.channel.build
  equipped : machine.unit.codecs = codecs
  policy : facade.policy = .spin
  apart : (task.buffers facade.word).Pairwise Buffer.Apart
  spares : machine.unit.device.Spares codecs (task.Owns facade.word)
    (machine.memory.store facade.word 0)
  serves : machine.unit.mode.Serves (machine.unit.device.pending + 3)

variable {codecs : Codecs} {facade : Facade} {task : Task facade.channel.pipeline}
  {machine : Machine Simulated}

theorem Ready.exclusive (ready : facade.Ready codecs task machine) :
    facade.Exclusive codecs task machine :=
  ⟨ready.built, ready.equipped, ready.apart, ready.spares⟩

/-- The wait of a task that is ready sees its codec succeed. -/
theorem Ready.run (ready : facade.Ready codecs task machine)
    (requested : task.request machine.memory = .ok task.message) {output : List UInt8}
    (coded : (facade.jobOf task machine).codec codecs (Task.contents machine.memory task.source) =
      some output)
    (room : task.Holds (if facade.channel.pipeline.isCompression then task.source.length.toNat
      else output.length) output.length) :
    ∃ after, facade.run task machine =
        (.ok ⟨(facade.jobOf task machine).value output, facade.channel.width⟩, facade, after) ∧
      after.read task.destination.address output.length = output ∧
      after.unit.device.pending = 0 := by
  have made : facade.output? task machine = some output := by
    rw [output?, ready.equipped]
    exact coded
  have waits : facade.policy ≠ .skip := by
    rw [ready.policy]
    simp
  exact ready.exclusive.run requested made room waits ready.serves

/-- What was compressed comes back.  The compression reports a positive size
within the bound of its source.  Wherever the bytes it produced are then handed
to a decompression of the same codec, that one reports success and leaves the
source in its destination.  The parameters latched by the two units, the level of
the request and all that the devices have done before are arbitrary. -/
theorem round_trip (faithful : codecs.Faithful) (compressor decompressor : Facade)
    (compresses : compressor.channel.pipeline.isCompression = true)
    (decompresses : decompressor.channel.pipeline.isCompression = false)
    (same : decompressor.channel.pipeline.algorithm = compressor.channel.pipeline.algorithm)
    {task : Task compressor.channel.pipeline} {machine : Machine Simulated}
    (ready : compressor.Ready codecs task machine) {bound : Nat}
    (bounded : compressor.channel.pipeline.algorithm.bound task.source.length.toNat = .ok bound)
    (small : bound < Codecs.sizeLimit) (room : task.Holds task.source.length.toNat bound) :
    ∃ completion after, compressor.run task machine = (.ok completion, compressor, after) ∧
      0 < completion.produced.toNat ∧ completion.produced.toNat ≤ bound ∧
      after.unit.device.pending = 0 ∧
      ∀ {back : Task decompressor.channel.pipeline} {second : Machine Simulated},
        decompressor.Ready codecs back second →
        back.source.length = completion.produced →
        second.read back.source.address completion.produced.toNat =
          after.read task.destination.address completion.produced.toNat →
        back.Holds task.source.length.toNat task.source.length.toNat →
        ∃ flag last, decompressor.run back second = (.ok flag, decompressor, last) ∧
          flag.success = true ∧
          last.unit.device.pending = 0 ∧
          last.read back.destination.address task.source.length.toNat =
            machine.read task.source.address task.source.length.toNat := by
  have length : (Task.contents machine.memory task.source).length = task.source.length.toNat :=
    Memory.length_read _ _ _
  rw [← length] at bounded
  rcases @Codecs.Faithful.codec _ faithful (task.job compressor.word
    (machine.unit.device.tuning.get compressor.channel.pipeline)) compresses _ _ bounded small with
    ⟨block, coded, fits, declared, restored⟩
  rw [length] at bounded declared
  have full : 0 < block.length :=
    List.length_pos_iff.mpr (Algorithm.ne_nil_of_declaredLength declared)
  have fitting : block.length < Codecs.sizeLimit := Nat.lt_of_le_of_lt fits small
  have produced := Completion.toNat_produced (Channel.width_ne_bits8 compresses) fitting
  -- The compression.
  have requested : task.request machine.memory = .ok task.message :=
    (Task.request_of_compression compresses).mpr ⟨rfl, bound, bounded, room⟩
  rcases ready.run requested coded
    (by
      rw [if_pos compresses]
      exact ⟨room.scratch, fits.trans room.destination⟩) with ⟨after, compressed, output, rest⟩
  rw [jobOf_value, if_pos compresses] at compressed
  refine ⟨_, after, compressed, ?_, ?_, rest, ?_⟩
  · rw [produced]
    exact full
  · rw [produced]
    exact fits
  -- The decompression.
  intro back second ready handed moved roomy
  rw [produced, output] at moved
  have received : Task.contents second.memory back.source = block := by
    unfold Task.contents
    rw [handed, produced]
    exact moved
  have decoded := restored (back.job decompressor.word
    (second.unit.device.tuning.get decompressor.channel.pipeline)) decompresses same
  rw [← received] at decoded
  have announced : decompressor.channel.pipeline.algorithm.declaredLength
      (Task.contents second.memory back.source) = .ok task.source.length.toNat := by
    rw [received, same]
    exact declared
  have flagged : (Completion.mk 1 decompressor.channel.width).done = true := by
    cases decompressor.channel.width <;> decide
  have answered : back.request second.memory = .ok back.message :=
    (Task.request_of_decompression decompresses).mpr ⟨rfl, _, announced, roomy⟩
  rcases ready.run answered decoded
    (by
      rw [decompresses, length]
      exact roomy) with ⟨last, decompressed, content, settled⟩
  rw [jobOf_value, decompresses] at decompressed
  refine ⟨_, last, decompressed, flagged, settled, ?_⟩
  rw [length] at content
  exact content

/-- Three bytes on their way through a stand-alone compressor that works beside
the host and a combined decompressor that works inline. -/
theorem round_trip_snappy :
    let compressor : Facade :=
      ⟨⟨.snappyStandalone, .snappyCompress, Build.standaloneSnappyCompress, rfl⟩, .powerOn, .spin,
        0x100⟩
    let decompressor : Facade :=
      ⟨⟨.decompressor, .snappyDecompress, Build.decompressorSnappyDecompress, rfl⟩, .powerOn, .spin,
        0x100⟩
    ∃ completion after flag last,
      compressor.run (.snappyCompress ⟨0x1000, 3⟩ ⟨0x2000, 64⟩)
        ⟨Simulated.powerOn .snappyStandalone (.threaded .relaxed),
          Memory.blank.write 0x1000 [1, 2, 3], [], 0⟩ = (.ok completion, compressor, after) ∧
      decompressor.run (.snappyDecompress ⟨0x2000, completion.produced⟩ ⟨0x4000, 3⟩)
        ⟨Simulated.powerOn .decompressor .inline, after.memory, [], 0⟩ =
          (.ok flag, decompressor, last) ∧
      flag.success = true ∧ last.read 0x4000 3 = [1, 2, 3] := by
  intro compressor decompressor
  have prompt : ∀ number, 0 < Schedule.relaxed .retry number :=
    fun _ => Nat.zero_lt_succ _
  have first : compressor.Ready .software (.snappyCompress ⟨0x1000, 3⟩ ⟨0x2000, 64⟩)
      ⟨Simulated.powerOn .snappyStandalone (.threaded .relaxed),
        Memory.blank.write 0x1000 [1, 2, 3], [], 0⟩ :=
    ⟨rfl, rfl, rfl, Buffer.pairwise_apart (by decide), Device.spares_of_pending_eq_zero rfl _ _,
      Mode.serves_of_pos prompt (by decide)⟩
  have room : (Task.snappyCompress ⟨0x1000, 3⟩ ⟨0x2000, 64⟩).Holds 3 35 :=
    ⟨by simp [Task.scratch], by decide⟩
  have known : compressor.channel.pipeline.algorithm.bound 3 = .ok 35 := rfl
  rcases round_trip Codecs.software_faithful compressor decompressor rfl rfl rfl first known
      (by decide) room with
    ⟨completion, after, compressed, _, bounded, _, restores⟩
  have apart : ((Task.snappyDecompress ⟨0x2000, completion.produced⟩ ⟨0x4000, 3⟩).buffers
      0x100).Pairwise Buffer.Apart := by
    simp only [Task.buffers, Task.source, Task.destination, Task.scratch, List.pairwise_cons,
      List.mem_cons, List.not_mem_nil, or_false, forall_eq_or_imp, forall_eq]
    refine ⟨⟨?_, ?_⟩, ?_, by simp, .nil⟩
    · apply Buffer.apart_of_le
      change 0x108 ≤ 0x2000
      decide
    · exact Buffer.apart_of_le (by decide)
    · apply Buffer.apart_of_le
      change 0x2000 + completion.produced.toNat ≤ 0x4000
      change completion.produced.toNat ≤ 35 at bounded
      omega
  have second : decompressor.Ready .software
      (.snappyDecompress ⟨0x2000, completion.produced⟩ ⟨0x4000, 3⟩)
      ⟨Simulated.powerOn .decompressor .inline, after.memory, [], 0⟩ :=
    ⟨rfl, rfl, rfl, apart, Device.spares_of_pending_eq_zero rfl _ _, trivial⟩
  have roomy : (Task.snappyDecompress ⟨0x2000, completion.produced⟩ ⟨0x4000, 3⟩).Holds 3 3 :=
    ⟨by simp [Task.scratch], Nat.le_refl _⟩
  rcases restores second rfl rfl roomy with ⟨flag, last, decompressed, success, _, content⟩
  refine ⟨completion, after, flag, last, compressed, decompressed, success, ?_⟩
  exact content.trans (Memory.read_write Memory.blank 0x1000 [1, 2, 3])

end Facade

end RoccCodec
