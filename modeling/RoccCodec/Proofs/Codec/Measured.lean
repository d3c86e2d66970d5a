import RoccCodec.Proofs.Codec.Faithful

namespace RoccCodec

/-!
# The sizes of outputs

The destination of a request is checked against a size that is known before the
codec has run.  For a compression this is a bound on what the encoder may
produce.  For a decompression it is what the driver reads off the first bytes of
the source, and a source from elsewhere can say there what it likes.

`Codecs.Measured` has what is known of the sizes that codecs produce.  Nothing
is asked of a Zstd decoder, since a unit compares what that makes of all frames
of a stream with the size that the first of them declares.  A Snappy decoder is
not checked in this way.  It keeps to the length in front of its block, but it
reads that length by itself, with room for 64 bits where the driver stops after
32.  `Codecs.Measured.decompressed` says that the two readings agree on all that
the driver lets through.
-/

/-- A reader that takes more groups reads the same number. -/
theorem Varint.read?_of_le {few many : Nat} (more : few ≤ many) {bytes rest : List UInt8}
    {value : Nat} (found : read? few bytes = some (value, rest)) :
    read? many bytes = some (value, rest) := by
  induction few generalizing many bytes value rest with
  | zero => cases found
  | succ few hypothesis =>
      rcases Nat.exists_eq_add_of_le' (Nat.le_of_add_left_le more) with ⟨many, rfl⟩
      cases bytes with
      | nil => cases found
      | cons byte bytes =>
          unfold read? at found ⊢
          split at found
          · rename_i last
            rw [if_pos last, found]
          · rename_i continued
            rcases Option.map_eq_some_iff.mp found with ⟨⟨high, after⟩, tail, same⟩
            rw [if_neg continued, hypothesis (Nat.le_of_succ_le_succ more) tail, ← same]
            rfl

namespace Codecs

/-- The most groups that a Snappy decoder reads in front of a block. -/
def preambleGroups : Nat := 10

/-- Encoders keep within the bounds of their codecs, and what a Snappy decoder
produces is as long as the block declares, in 64 bits. -/
structure Measured (codecs : Codecs) : Prop where
  snappyDecode {block content rest : List UInt8} {size : Nat}
    (preamble : Varint.read? preambleGroups block = some (size, rest))
    (decoded : codecs.snappyDecode block = some content) : content.length = size % Length.limit
  snappyEncode {source block : List UInt8} {bound : Nat}
    (bounded : Bound.snappy source.length = .ok bound)
    (encoded : codecs.snappyEncode source = some block) : block.length ≤ bound
  zstdEncode {source frame : List UInt8} {bound : Nat}
    (bounded : Bound.zstd source.length = .ok bound) {level : Int32} {windowLog hashLog : Option Nat}
    (window : ∀ log ∈ windowLog, windowLogRange.1 ≤ log ∧ log ≤ windowLogRange.2)
    (hash : ∀ log ∈ hashLog, hashLogRange.1 ≤ log ∧ log ≤ hashLogRange.2)
    (encoded : codecs.zstdEncode level windowLog hashLog source = some frame) :
    frame.length ≤ bound

theorem software_measured : software.Measured where
  snappyDecode := by
    intro block content rest size preamble decoded
    rcases Snappy.exists_preamble decoded with ⟨small, elements, front⟩
    rw [Varint.read?_of_le (by decide) front] at preamble
    cases preamble
    unfold Snappy.maxLength at small
    unfold Length.limit
    omega
  snappyEncode := by
    intro source block bound bounded encoded
    have fits := (Option.ite_none_right_eq_some.mp encoded).1
    rcases Snappy.encode?_spec fits with ⟨made, same, length, _⟩
    cases encoded.symm.trans same
    rw [(Bound.eq_of_snappy bounded).1]
    exact length
  zstdEncode := by
    intro source frame bound bounded level windowLog hashLog window hash encoded
    have range : 10 ≤ windowLog.getD Zstd.defaultWindowLog ∧
        windowLog.getD Zstd.defaultWindowLog ≤ 27 := by
      cases windowLog with
      | none => decide
      | some log => exact window log rfl
    have known : source.length < Zstd.unknownSize := @Algorithm.lt_of_bound .zstd _ _ bounded
    cases encoded
    rw [(Bound.eq_of_zstd bounded).1]
    exact (Zstd.encode_spec range.1 range.2 known).1

namespace Measured

variable {codecs : Codecs} {job : Job} {source output : List UInt8}

theorem compressed (measured : codecs.Measured) (compresses : job.pipeline.isCompression = true)
    {bound : Nat} (bounded : job.pipeline.algorithm.bound source.length = .ok bound)
    (coded : job.codec codecs source = some output) : output.length ≤ bound := by
  rcases job with ⟨pipeline, input, auxiliary, destination, word, level, tuning⟩
  cases pipeline with
  | snappyCompress => exact measured.snappyEncode bounded coded
  | zstdCompress =>
      exact measured.zstdEncode bounded (fun _ => tuning.window_mem) (fun _ => tuning.hash_mem) coded
  | snappyDecompress => cases compresses
  | zstdDecompress => cases compresses

/-- A decompression that succeeds produces as many bytes as the driver has read
that it would. -/
theorem decompressed (measured : codecs.Measured)
    (decompresses : job.pipeline.isCompression = false) {size : Nat}
    (declared : job.pipeline.algorithm.declaredLength source = .ok size)
    (coded : job.codec codecs source = some output) : output.length = size := by
  rcases job with ⟨pipeline, input, auxiliary, destination, word, level, tuning⟩
  cases pipeline with
  | snappyDecompress =>
      rcases Snappy.declaredLength_eq_ok_iff.mp declared with ⟨small, rest, front⟩
      have preamble := Varint.read?_of_le (show Snappy.lengthGroups ≤ preambleGroups by decide)
        front
      rw [measured.snappyDecode preamble coded]
      unfold Snappy.maxLength at small
      unfold Length.limit
      omega
  | zstdDecompress =>
      change Zstd.contentSize source = .ok size at declared
      simp only [Job.codec, declared, Option.bind_eq_bind, Option.bind_eq_some_iff,
        Option.ite_none_right_eq_some, Option.some.injEq] at coded
      rcases coded with ⟨content, _, same, rfl⟩
      exact content.length_bytes.trans same
  | snappyCompress => cases decompresses
  | zstdCompress => cases decompresses

theorem bounded (measured : codecs.Measured) : codecs.Bounded where
  compressed := fun compresses bounded coded => measured.compressed compresses bounded coded
  decompressed := fun decompresses declared coded =>
    Nat.le_of_eq (measured.decompressed decompresses declared coded)

end Measured

theorem software_bounded : software.Bounded := software_measured.bounded

end Codecs

end RoccCodec
