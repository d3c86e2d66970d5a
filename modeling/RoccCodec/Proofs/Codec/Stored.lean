import Mathlib.Algebra.Order.Floor.Div
import Mathlib.Algebra.Order.Ring.Int
import Mathlib.GroupTheory.GroupAction.Ring
import RoccCodec.Proofs.Codec.Faithful
import RoccCodec.Proofs.Codec.FrameHeader
import RoccCodec.Proofs.Task

namespace RoccCodec

/-!
# Sources that are stored as they are

A codec that cannot make a source any shorter stores it: in a Snappy block of literals, or
in a Zstd frame of plain blocks.  A stored source grows by what stands in front of it and by
three bytes for each of its pieces.  `Algorithm.Stores` has these outputs, for every header a
frame can have and every way to cut the source into no more pieces than it takes.

The bounds of the driver are larger.  `Bound.covers_stored` says so for all lengths and
for all sizes of blocks at once; the margins are spent by different terms, by the header
where the source is short and by the blocks where they are small.
-/

/-! ## Sizes -/

namespace Snappy

/-- The most bytes of a block of literals: five for the length in front, and three for the
tag of each literal. -/
def storedSize (length : Nat) : Nat := 5 + 3 * (length ⌈/⌉ literalLimit) + length

theorem storedSize_le (length : Nat) : storedSize length ≤ 32 + length + length / 6 := by
  rw [storedSize, Nat.ceilDiv_eq_add_pred_div, literalLimit]
  omega

end Snappy

namespace Zstd

/-- The most bytes of a frame of plain blocks: eighteen for the header, and three in front of
each block.  There is a block even if there is no content. -/
def storedSize (blockSize length : Nat) : Nat := 18 + length + 3 * max 1 (length ⌈/⌉ blockSize)

/-- The smaller the blocks are, the more of them there are. -/
theorem storedSize_le_of_le {small large : Nat} (positive : 0 < small) (order : small ≤ large)
    (length : Nat) : storedSize large length ≤ storedSize small length := by
  have fewer : length ⌈/⌉ large ≤ length ⌈/⌉ small := by
    rw [ceilDiv_le_iff_le_smul (positive.trans_le order)]
    calc
      length ≤ small * (length ⌈/⌉ small) := le_smul_ceilDiv positive
      _ ≤ large * (length ⌈/⌉ small) := Nat.mul_le_mul_right _ order
  unfold storedSize
  omega

theorem storedSize_le {blockSize : Nat} (least : 0x400 ≤ blockSize) (length : Nat) :
    storedSize blockSize length ≤
      length + length / 256 + (Bound.smallSource - length) / 2048 := by
  refine (storedSize_le_of_le (by decide) least length).trans ?_
  rw [storedSize, Nat.ceilDiv_eq_add_pred_div, Bound.smallSource]
  omega

end Zstd

/-! ## Outputs -/

/-- Pieces that each grow by three bytes at most. -/
theorem length_flatMap_le {write : List UInt8 → List UInt8}
    (grows : ∀ piece, (write piece).length ≤ piece.length + 3) (pieces : List (List UInt8)) :
    (pieces.flatMap write).length ≤ pieces.flatten.length + 3 * pieces.length := by
  induction pieces with
  | nil => simp
  | cons piece rest hypothesis =>
      have first := grows piece
      simp only [List.flatMap_cons, List.flatten_cons, List.length_append, List.length_cons]
      omega

namespace Zstd

def plain (last : Bool) (bytes : List UInt8) : List UInt8 := Block.write ⟨last, .run (.stored bytes)⟩

theorem length_plain (last : Bool) (bytes : List UInt8) :
    (plain last bytes).length = bytes.length + 3 := by
  simp only [plain, Block.write, Body.tag, List.length_append, LittleEndian.length_toBytes,
    Body.length_write, Body.width]
  omega

theorem dictionaryBytes_le (descriptor : UInt8) : dictionaryBytes descriptor ≤ 4 := by
  rw [← (Descriptor.ofByte_bits descriptor).2.2.1]
  unfold Descriptor.dictionaryWidth
  split <;> decide

theorem sizeBytes_le (descriptor : UInt8) : sizeBytes descriptor ≤ 8 := by
  rw [← (Descriptor.ofByte_bits descriptor).2.2.2.1]
  unfold Descriptor.sizeWidth
  split
  · split <;> decide
  all_goals decide

theorem Preamble.length_bytes_le (preamble : Preamble) : preamble.bytes.length ≤ 18 := by
  have dictionary := dictionaryBytes_le preamble.descriptor
  have size := sizeBytes_le preamble.descriptor
  have magic : magicBytes.length = 4 := rfl
  simp only [bytes, List.length_append, List.length_cons, preamble.length_window,
    preamble.length_dictionary, preamble.length_size, magic]
  split <;> omega

end Zstd

/-- What a codec makes of a source that it stores: a block of literals, or a frame
of plain blocks, with no more pieces than are needed for their size. -/
inductive Algorithm.Stores (source : List UInt8) : Algorithm → List UInt8 → Prop
  | literals {pieces : List (List UInt8)} (whole : pieces.flatten = source)
    (short : ∀ piece ∈ pieces, piece.length ≤ Snappy.literalLimit)
    (few : pieces.length ≤ source.length ⌈/⌉ Snappy.literalLimit)
    (held : source.length ≤ Snappy.maxLength) :
    Stores source .snappy (Varint.write source.length ++ pieces.flatMap Snappy.literal)
  | blocks (preamble : Zstd.Preamble) {size : Nat} (least : 2 ^ windowLogRange.1 ≤ size)
    (most : size ≤ Zstd.maxBlock) {front : List (List UInt8)} {last : List UInt8}
    (whole : front.flatten ++ last = source)
    (short : ∀ piece ∈ last :: front, piece.length ≤ size)
    (few : front.length + 1 ≤ max 1 (source.length ⌈/⌉ size)) :
    Stores source .zstd (preamble.bytes ++ front.flatMap (Zstd.plain false) ++ Zstd.plain true last)

/-- The literals that the encoder makes of a source. -/
theorem Snappy.exists_pieces (count : Nat) (source : List UInt8) :
    ∃ pieces : List (List UInt8), literals count source = pieces.flatMap literal ∧
      pieces.length = count ∧ pieces.flatten = source.take (count * literalLimit) ∧
      ∀ piece ∈ pieces, piece.length ≤ literalLimit := by
  induction count generalizing source with
  | zero => exact ⟨[], rfl, rfl, by simp, by simp⟩
  | succ count hypothesis =>
      rcases hypothesis (source.drop literalLimit) with ⟨pieces, written, length, whole, short⟩
      refine ⟨source.take literalLimit :: pieces, ?_, congrArg _ length, ?_, ?_⟩
      · rw [literals, written, List.flatMap_cons]
      · rw [List.flatten_cons, whole, ← List.take_add, Nat.succ_mul, Nat.add_comm]
      · exact List.forall_mem_cons.mpr ⟨List.length_take_le _ _, short⟩

/-- The encoder of this library stores every source. -/
theorem Snappy.stores_of_encode? {source block : List UInt8} (encoded : encode? source = some block) :
    Algorithm.Stores source .snappy block := by
  rcases Option.ite_none_right_eq_some.mp encoded with ⟨held, made⟩
  cases made
  have count : (source.length + literalLimit - 1) / literalLimit =
      source.length ⌈/⌉ literalLimit := (Nat.ceilDiv_eq_add_pred_div _ _).symm
  rcases exists_pieces (source.length ⌈/⌉ literalLimit) source with
    ⟨pieces, written, length, whole, short⟩
  rw [count, written]
  refine .literals ?_ short length.le held
  have positive : 0 < literalLimit := by decide
  rw [whole, Nat.mul_comm]
  exact List.take_of_length_le (le_smul_ceilDiv positive)

namespace Algorithm

variable {algorithm : Algorithm} {source output : List UInt8}

theorem Stores.length_le (stores : Stores source algorithm output) {bound : Nat}
    (bounded : algorithm.bound source.length = .ok bound) : output.length ≤ bound := by
  cases stores with
  | @literals pieces whole short few held =>
      rw [(Bound.eq_of_snappy bounded).1]
      refine le_trans ?_ (Snappy.storedSize_le source.length)
      have inRange : source.length < Varint.range Snappy.lengthGroups := by
        unfold Snappy.maxLength at held
        simp only [Snappy.lengthGroups, Varint.range]
        omega
      have preamble : (Varint.write source.length).length ≤ 5 :=
        Varint.length_write_le (by decide) inRange
      have elements := length_flatMap_le Snappy.length_literal_le pieces
      rw [whole] at elements
      rw [List.length_append, Snappy.storedSize]
      omega
  | @blocks preamble size least most front last whole short few =>
      rw [(Bound.eq_of_zstd bounded).1]
      refine le_trans ?_ (Zstd.storedSize_le least source.length)
      have header := preamble.length_bytes_le
      have elements := length_flatMap_le (fun piece => (Zstd.length_plain false piece).le) front
      have length := congrArg List.length whole
      rw [List.length_append] at length
      simp only [List.length_append, Zstd.length_plain, Zstd.storedSize]
      omega

end Algorithm

/-! ## Bounds -/

/-- For a source of any length that memory can hold, both bounds are computed, and they are
the sums and quotients of the integers.  A shorter source has no larger bounds.  The bounds
cover a block of literals, and a frame of plain blocks of any size from the smallest window
on.  So a compression that is sent has room for its source if the codec stores it. -/
theorem Bound.covers_stored {length : Nat} (addressable : length ≤ 0x7FFFFFFFFFFFFFFF) :
    ∃ block frame, snappy length = .ok block ∧ zstd length = .ok frame ∧
      (block : ℤ) = 32 + length + length / 6 ∧
      (frame : ℤ) = length + length / 256 + max 0 ((0x20000 - length : ℤ) / 2048) ∧
      (∀ shorter ≤ length, ∃ less ≤ block, ∃ fewer ≤ frame,
        snappy shorter = .ok less ∧ zstd shorter = .ok fewer) ∧
      5 + 3 * (length ⌈/⌉ 65536) + length ≤ block ∧
      (∀ size, 2 ^ 10 ≤ size → size ≤ 2 ^ 17 →
        18 + length + 3 * max 1 (length ⌈/⌉ size) ≤ frame) ∧
      ∀ (pipeline : Pipeline) (task : Task pipeline) (memory : Memory) (request : Request)
        (stored : List UInt8), pipeline.isCompression = true →
        task.request memory = .ok request →
        pipeline.algorithm.Stores (Task.contents memory task.source) stored →
        stored.length ≤ task.destination.length.toNat := by
  refine ⟨_, _, snappy_eq (Nat.lt_succ_of_le addressable), zstd_eq (Nat.lt_succ_of_le addressable),
    ?_, ?_, fun shorter order => ?_, ?_, fun size least _ => ?_, ?_⟩
  · omega
  · unfold smallSource
    omega
  · have small := Nat.lt_succ_of_le (order.trans addressable)
    refine ⟨_, ?_, _, ?_, snappy_eq small, zstd_eq small⟩
    · omega
    · unfold smallSource
      omega
  · exact Snappy.storedSize_le length
  · exact Zstd.storedSize_le least length
  · intro pipeline task memory request stored compresses requested stores
    rcases (Task.request_of_compression compresses).mp requested with ⟨_, bound, bounded, room⟩
    have whole : (Task.contents memory task.source).length = task.source.length.toNat :=
      Memory.length_read _ _ _
    rw [← whole] at bounded
    exact (stores.length_le bounded).trans room.destination

/-- Three bytes behind the longest header there is, and the smallest destination for them. -/
theorem Bound.covers_stored_longest_header :
    let task : Task .zstdCompress := .zstdCompress ⟨0x1000, 3⟩ ⟨0x2000, 3⟩ ⟨0x3000, 3⟩ ⟨0x4000, 66⟩ 1
    let header : Zstd.Preamble := ⟨0xC3, [0x50], [1, 2, 3, 4], List.replicate 8 0xFF, by decide, rfl,
      rfl, rfl⟩
    let frame := header.bytes ++ [].flatMap (Zstd.plain false) ++ Zstd.plain true [0, 0, 0]
    snappy 3 = .ok 35 ∧ zstd 3 = .ok 66 ∧ 5 + 3 * (3 ⌈/⌉ 65536) + 3 ≤ 35 ∧
      18 + 3 + 3 * max 1 (3 ⌈/⌉ 1024) ≤ 66 ∧
      task.request .blank = .ok task.message ∧
      Algorithm.Stores (Task.contents .blank task.source) .zstd frame ∧ frame.length = 24 ∧
      frame.length ≤ task.destination.length.toNat := by
  intro task header frame
  have requested : task.request .blank = .ok task.message := rfl
  have stores : Algorithm.Stores (Task.contents .blank task.source) .zstd frame :=
    .blocks header (le_refl 1024) (by decide) rfl (by decide) (by decide)
  rcases covers_stored (show 3 ≤ 0x7FFFFFFFFFFFFFFF by decide) with
    ⟨block, bound, snappy, zstd, _, _, _, literals, blocks, room⟩
  cases snappy
  cases zstd
  exact ⟨rfl, rfl, literals, blocks 1024 (by decide) (by decide), requested, stores, rfl,
    room _ task .blank _ frame rfl requested stores⟩

end RoccCodec
