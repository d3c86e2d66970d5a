import RoccCodec.Codec
import RoccCodec.Device.Job
import RoccCodec.Proofs.Codec.Snappy
import RoccCodec.Proofs.Codec.Zstd

namespace RoccCodec

/-!
# Faithful codecs

A driver relies on its codecs in three ways: a compressed output stays within
the bound a destination is checked against, it declares the length of its
source, and decompressing it gives the source back.  `Codecs.Faithful` asks for
this of every source whose bound a completion word of 32 bits can hold, and of
every level and every size of window and hash table that a unit passes on.  The
codecs of this library are faithful.
-/

namespace Bound

theorem eq_of_snappy {length bound : Nat} (bounded : snappy length = .ok bound) :
    bound = 32 + length + length / 6 ∧ bound < Length.limit := by
  simp only [snappy, bind_eq_ok_iff, Length.add_eq_ok_iff] at bounded
  rcases bounded with ⟨sum, ⟨rfl, _⟩, total, least⟩
  exact ⟨total, least⟩

theorem eq_of_zstd {length bound : Nat} (bounded : zstd length = .ok bound) :
    bound = length + length / 256 + (smallSource - length) / 2048 ∧ bound < Length.limit := by
  simp only [zstd, margin_eq, bind_eq_ok_iff, Except.ok.injEq, exists_eq_left',
    Length.add_eq_ok_iff] at bounded
  rcases bounded with ⟨sum, ⟨rfl, _⟩, total, least⟩
  exact ⟨total, least⟩

end Bound

/-- No source is longer than a bound that is known. -/
theorem Algorithm.lt_of_bound {algorithm : Algorithm} {length bound : Nat}
    (bounded : algorithm.bound length = .ok bound) : length < Zstd.unknownSize := by
  unfold Zstd.unknownSize
  cases algorithm with
  | snappy =>
      rcases Bound.eq_of_snappy bounded with ⟨value, least⟩
      unfold Length.limit at least
      omega
  | zstd =>
      rcases Bound.eq_of_zstd bounded with ⟨value, least⟩
      unfold Length.limit at least
      omega

namespace Codecs

/-- The first size that 32 bits do not hold. -/
def sizeLimit : Nat := 0x100000000

/-- Encoders and decoders that fit together. -/
structure Faithful (codecs : Codecs) : Prop where
  snappy {source : List UInt8} {bound : Nat} (bounded : Bound.snappy source.length = .ok bound)
    (small : bound < sizeLimit) :
    ∃ block, codecs.snappyEncode source = some block ∧ block.length ≤ bound ∧
      Snappy.declaredLength block = .ok source.length ∧ codecs.snappyDecode block = some source
  zstd {source : List UInt8} {bound : Nat} (bounded : Bound.zstd source.length = .ok bound)
    (small : bound < sizeLimit) (level : Int32) {windowLog hashLog : Option Nat}
    (window : ∀ log ∈ windowLog, windowLogRange.1 ≤ log ∧ log ≤ windowLogRange.2)
    (hash : ∀ log ∈ hashLog, hashLogRange.1 ≤ log ∧ log ≤ hashLogRange.2) :
    ∃ frame, codecs.zstdEncode level windowLog hashLog source = some frame ∧
      frame.length ≤ bound ∧ Zstd.contentSize frame = .ok source.length ∧
      ∃ content, codecs.zstdDecode frame = some content ∧ content.bytes = source

theorem software_faithful : software.Faithful where
  snappy := by
    intro source bound bounded small
    have value := (Bound.eq_of_snappy bounded).1
    unfold sizeLimit at small
    have fits : source.length ≤ Snappy.maxLength := by
      unfold Snappy.maxLength
      omega
    rw [value]
    exact Snappy.encode?_spec fits
  zstd := by
    intro source bound bounded small level windowLog hashLog window hash
    have value := (Bound.eq_of_zstd bounded).1
    unfold sizeLimit at small
    have known : source.length < Zstd.unknownSize := by
      unfold Zstd.unknownSize
      omega
    have range : 10 ≤ windowLog.getD Zstd.defaultWindowLog ∧
        windowLog.getD Zstd.defaultWindowLog ≤ 27 := by
      cases windowLog with
      | none => decide
      | some log => exact window log rfl
    rw [value]
    rcases Zstd.encode_spec range.1 range.2 known with ⟨length, declared, decoded⟩
    exact ⟨Zstd.encode windowLog source, rfl, length, declared, decoded⟩

end Codecs

/-! ## Jobs with faithful codecs -/

theorem windowLog_range (history : UInt64) :
    windowLogRange.1 ≤ windowLog history ∧ windowLog history ≤ windowLogRange.2 := by
  unfold windowLog windowLogRange
  dsimp only
  omega

theorem hashLog_range (log2 : UInt64) :
    hashLogRange.1 ≤ hashLog log2 ∧ hashLog log2 ≤ hashLogRange.2 := by
  unfold hashLog hashLogRange
  dsimp only
  omega

theorem Tuning.window_mem {tuning : Tuning} {log : Nat}
    (member : log ∈ tuning.history.map windowLog) :
    windowLogRange.1 ≤ log ∧ log ≤ windowLogRange.2 := by
  rcases Option.map_eq_some_iff.mp member with ⟨history, _, rfl⟩
  exact windowLog_range history

theorem Tuning.hash_mem {tuning : Tuning} {log : Nat}
    (member : log ∈ tuning.hashTableLog2.map hashLog) :
    hashLogRange.1 ≤ log ∧ log ≤ hashLogRange.2 := by
  rcases Option.map_eq_some_iff.mp member with ⟨log2, _, rfl⟩
  exact hashLog_range log2

/-- A block declares the size of its content, so it is never empty. -/
theorem Algorithm.ne_nil_of_declaredLength {algorithm : Algorithm} {block : List UInt8} {size : Nat}
    (declared : algorithm.declaredLength block = .ok size) : block ≠ [] := by
  intro empty
  subst block
  cases algorithm <;> cases declared

/-- Whatever parameters a unit has latched and whatever the level of the
request, a compression of a bounded source succeeds, and every decompression of
the same codec undoes it. -/
theorem Codecs.Faithful.codec {codecs : Codecs} (faithful : codecs.Faithful) {job : Job}
    (compresses : job.pipeline.isCompression = true) {source : List UInt8} {bound : Nat}
    (bounded : job.pipeline.algorithm.bound source.length = .ok bound)
    (small : bound < sizeLimit) :
    ∃ block, job.codec codecs source = some block ∧ block.length ≤ bound ∧
      job.pipeline.algorithm.declaredLength block = .ok source.length ∧
      ∀ back : Job, back.pipeline.isCompression = false →
        back.pipeline.algorithm = job.pipeline.algorithm → back.codec codecs block = some source := by
  rcases job with ⟨pipeline, input, auxiliary, destination, word, level, tuning⟩
  cases pipeline with
  | snappyCompress =>
      rcases faithful.snappy bounded small with ⟨block, encoded, fits, declared, decoded⟩
      refine ⟨block, encoded, fits, declared, ?_⟩
      rintro ⟨pipeline, _⟩ decompresses same
      cases pipeline <;> cases decompresses <;> cases same
      exact decoded
  | zstdCompress =>
      rcases faithful.zstd bounded small level (fun _ => tuning.window_mem)
          (fun _ => tuning.hash_mem) with
        ⟨frame, encoded, fits, declared, content, decoded, restored⟩
      refine ⟨frame, encoded, fits, declared, ?_⟩
      rintro ⟨pipeline, _⟩ decompresses same
      cases pipeline <;> cases decompresses <;> cases same
      have size : content.size = source.length := by
        rw [← content.length_bytes, restored]
      simp [Job.codec, declared, decoded, size, restored]
  | snappyDecompress => cases compresses
  | zstdDecompress => cases compresses

/-! ## Sizes of outputs -/

namespace Codecs

/-- Every output fits where a driver has made room for it: a compressed one
within the bound of its source, a decompressed one within the size that its
source declares. -/
structure Bounded (codecs : Codecs) : Prop where
  compressed {job : Job} {source output : List UInt8} {bound : Nat}
    (compresses : job.pipeline.isCompression = true)
    (bounded : job.pipeline.algorithm.bound source.length = .ok bound)
    (coded : job.codec codecs source = some output) : output.length ≤ bound
  decompressed {job : Job} {source output : List UInt8} {size : Nat}
    (decompresses : job.pipeline.isCompression = false)
    (declared : job.pipeline.algorithm.declaredLength source = .ok size)
    (coded : job.codec codecs source = some output) : output.length ≤ size

/-- The output of a compression is not empty. -/
def Filled (codecs : Codecs) : Prop :=
  ∀ (job : Job) (source output : List UInt8), job.pipeline.isCompression = true →
    job.codec codecs source = some output → output ≠ []

/-- The output of a compression is not empty, and 64 bits hold its size. -/
def Sized (codecs : Codecs) : Prop :=
  ∀ (job : Job) (source output : List UInt8), job.pipeline.isCompression = true →
    job.codec codecs source = some output → output ≠ [] ∧ output.length < Length.limit

/-- No output of the codecs of this library is much longer than its source. -/
theorem software_codec {job : Job} {source output : List UInt8}
    (compresses : job.pipeline.isCompression = true) (known : source.length < Zstd.unknownSize)
    (coded : job.codec software source = some output) :
    output.length ≤ 64 + source.length + source.length / 6 := by
  rcases job with ⟨pipeline, input, auxiliary, destination, word, level, tuning⟩
  cases pipeline with
  | snappyCompress =>
      change Snappy.encode? source = some output at coded
      have fits := (Option.ite_none_right_eq_some.mp coded).1
      rcases Snappy.encode?_spec fits with ⟨block, encoded, length, _⟩
      cases coded.symm.trans encoded
      omega
  | zstdCompress =>
      have range : 10 ≤ (tuning.history.map windowLog).getD Zstd.defaultWindowLog ∧
          (tuning.history.map windowLog).getD Zstd.defaultWindowLog ≤ 27 := by
        cases tuning.history with
        | none => decide
        | some history => exact windowLog_range history
      have length := (Zstd.encode_spec range.1 range.2 known).1
      have made : Zstd.encode (tuning.history.map windowLog) source = output := Option.some.inj coded
      subst made
      unfold Bound.smallSource at length
      omega
  | snappyDecompress => cases compresses
  | zstdDecompress => cases compresses

theorem software_filled : software.Filled := by
  rintro ⟨pipeline, input, auxiliary, destination, word, level, tuning⟩ source output compresses
    coded
  cases pipeline with
  | snappyCompress =>
      change Snappy.encode? source = some output at coded
      rcases Snappy.encode?_spec (Option.ite_none_right_eq_some.mp coded).1 with
        ⟨block, encoded, _, declared, _⟩
      cases coded.symm.trans encoded
      exact @Algorithm.ne_nil_of_declaredLength .snappy _ _ declared
  | zstdCompress =>
      have made : Zstd.encode (tuning.history.map windowLog) source = output := Option.some.inj coded
      rw [← made]
      exact Zstd.encode_ne_nil _ source
  | snappyDecompress => cases compresses
  | zstdDecompress => cases compresses

/-- The codecs of this library, which refuse a source that no machine can hold. -/
def confined : Codecs :=
  { software with
    zstdEncode := fun level windowLog hashLog source =>
      if source.length < 0x4000000000000000 then software.zstdEncode level windowLog hashLog source
      else none }

theorem sized_confined : confined.Sized := by
  intro job source output compresses coded
  have accepted : source.length < 0x4000000000000000 ∧ job.codec software source = some output := by
    rcases job with ⟨pipeline, input, auxiliary, destination, word, level, tuning⟩
    cases pipeline with
    | snappyCompress =>
        change Snappy.encode? source = some output at coded
        have fits := (Option.ite_none_right_eq_some.mp coded).1
        unfold Snappy.maxLength at fits
        exact ⟨by omega, coded⟩
    | zstdCompress => exact Option.ite_none_right_eq_some.mp coded
    | snappyDecompress => cases compresses
    | zstdDecompress => cases compresses
  rcases accepted with ⟨held, coded⟩
  have known : source.length < Zstd.unknownSize := by
    unfold Zstd.unknownSize
    omega
  have length := software_codec compresses known coded
  refine ⟨software_filled job source output compresses coded, ?_⟩
  unfold Length.limit
  omega

end Codecs

end RoccCodec
