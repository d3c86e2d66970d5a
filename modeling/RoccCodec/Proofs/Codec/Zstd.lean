import RoccCodec.Bound
import RoccCodec.Zstd.Stream

namespace RoccCodec.Zstd

/-!
# Zstd frames decode to what was encoded

What the encoder writes is one frame: a header that gives the size of the
content, and blocks of which only the last is marked.  Each part is read back
whatever follows it, so the frame is read back as the header and the blocks it
was made from (`read?_encode`).  The decoder then has two ways to the content,
at once and block by block, and may take either; both lead to the source.
-/

/-! ## Blocks -/

namespace Block

/-- A block is read back if its size has room in the number in front. -/
theorem read?_write_append {block : Block} (kind : block.body.tag.1 < 4)
    (fits : block.body.tag.2 < 0x200000) (rest : List UInt8) :
    read? (block.write ++ rest) = some (block, rest) := by
  rcases block with ⟨last, body⟩
  change body.tag.1 < 4 at kind
  change body.tag.2 < 0x200000 at fits
  have flag : (if last = true then 1 else 0) < 2 := by
    split <;> decide
  generalize marked : (if last = true then 1 else 0) = mark at flag
  have number : (body.tag.2 * 8 + body.tag.1 * 2 + mark) % LittleEndian.range 3 =
      body.tag.2 * 8 + body.tag.1 * 2 + mark := by
    apply Nat.mod_eq_of_lt
    simp only [LittleEndian.range]
    omega
  have front := LittleEndian.read?_toBytes_append 3 (body.tag.2 * 8 + body.tag.1 * 2 + mark)
    (body.write ++ rest)
  have behind : (LittleEndian.toBytes 3 (body.tag.2 * 8 + body.tag.1 * 2 + mark) ++
      (body.write ++ rest)).drop 3 = body.write ++ rest := by
    rw [List.drop_append_of_le_length (by simp), List.drop_of_length_le (by simp),
      List.nil_append]
  have size : (body.tag.2 * 8 + body.tag.1 * 2 + mark) / 8 = body.tag.2 := by omega
  have taken : (body.tag.2 * 8 + body.tag.1 * 2 + mark) / 2 % 4 = body.tag.1 := by omega
  have lowest : ((body.tag.2 * 8 + body.tag.1 * 2 + mark) % 2 == 1) = last := by
    rw [← marked]
    cases last <;> simp <;> omega
  rw [write, read?, List.append_assoc]
  simp only [marked, front, number, behind, size, taken, Body.read?_write_append, lowest,
    Option.bind_eq_bind, Option.bind_some, Option.pure_def]

end Block

def blocksOf (blockSize : Nat) : Nat → List UInt8 → List Block
  | 0, source => [⟨true, .run (.ofList source)⟩]
  | full + 1, source =>
    ⟨false, .run (.ofList (source.take blockSize))⟩ :: blocksOf blockSize full (source.drop blockSize)

theorem ofList_cases (bytes : List UInt8) :
    Run.ofList bytes = .stored bytes ∨
      ∃ byte, Run.ofList bytes = .fill bytes.length byte ∧ 0 < bytes.length := by
  cases bytes with
  | nil => exact Or.inl rfl
  | cons first rest =>
      unfold Run.ofList
      dsimp only
      split
      · exact Or.inr ⟨first, rfl, Nat.succ_pos _⟩
      · exact Or.inl rfl

/-- A block of bytes stands for them, and takes no more room than they do. -/
theorem body_ofList (bytes : List UInt8) :
    (Body.run (.ofList bytes)).tag.1 < 4 ∧ (Body.run (.ofList bytes)).tag.2 = bytes.length ∧
      (Body.run (.ofList bytes)).width ≤ bytes.length ∧
      (Run.ofList bytes).length = bytes.length := by
  rcases ofList_cases bytes with stored | ⟨byte, fill, filled⟩
  · rw [stored]
    exact ⟨Nat.zero_lt_succ 3, rfl, Nat.le_refl _, rfl⟩
  · rw [fill]
    exact ⟨Nat.succ_lt_succ (Nat.zero_lt_succ 2), rfl, filled, rfl⟩

/-- So many full blocks and a last one cover the source. -/
structure Covers (blockSize full : Nat) (source : List UInt8) : Prop where
  small : blockSize ≤ maxBlock
  enough : source.length ≤ (full + 1) * blockSize

theorem Covers.drop {blockSize full : Nat} {source : List UInt8}
    (covers : Covers blockSize (full + 1) source) :
    Covers blockSize full (source.drop blockSize) := by
  refine ⟨covers.small, ?_⟩
  have enough := covers.enough
  rw [Nat.succ_mul (full + 1)] at enough
  rw [List.length_drop]
  omega

theorem readAll?_writeBlocks {blockSize full : Nat} {source : List UInt8}
    (covers : Covers blockSize full source) (before : Array Block) (rest : List UInt8) :
    Block.readAll? before (writeBlocks blockSize full source ++ rest) =
      some (before ++ (blocksOf blockSize full source).toArray, rest) := by
  have small := covers.small
  unfold maxBlock at small
  induction full generalizing before source with
  | zero =>
      have enough := covers.enough
      have body := body_ofList source
      have found := @Block.read?_write_append ⟨true, .run (.ofList source)⟩ body.1
        (by rw [body.2.1]; omega) rest
      rw [writeBlocks, Block.readAll?]
      split
      · rename_i missing
        rw [found] at missing
        contradiction
      · rename_i block after taken
        rw [found] at taken
        cases taken
        simp [blocksOf]
  | succ full hypothesis =>
      have body := body_ofList (source.take blockSize)
      have short : (source.take blockSize).length ≤ blockSize := by
        rw [List.length_take]
        omega
      have found := @Block.read?_write_append ⟨false, .run (.ofList (source.take blockSize))⟩
        body.1 (by rw [body.2.1]; omega)
        (writeBlocks blockSize full (source.drop blockSize) ++ rest)
      rw [writeBlocks, Block.readAll?, List.append_assoc]
      split
      · rename_i missing
        rw [found] at missing
        contradiction
      · rename_i block after taken
        rw [found] at taken
        cases taken
        rw [if_neg (by simp), hypothesis covers.drop]
        simp [blocksOf]

/-- The blocks stand for the bytes of the source, and each is no longer than a
full one or the source. -/
theorem blocksOf_spec {blockSize full : Nat} {source : List UInt8}
    (covers : Covers blockSize full source) :
    ∃ content : Content, content.bytes = source ∧
      (blocksOf blockSize full source).mapM Block.run? = some content ∧
      ∀ limit, min blockSize source.length ≤ limit →
        (blocksOf blockSize full source).mapM (Block.runWithin? limit) = some content := by
  induction full generalizing source with
  | zero =>
      have enough := covers.enough
      have body := body_ofList source
      refine ⟨[.ofList source], by simp [Content.bytes], rfl, ?_⟩
      intro limit bound
      have short : source.length ≤ limit := by omega
      have within : Block.runWithin? limit ⟨true, .run (.ofList source)⟩ =
          some (.ofList source) := by
        rw [Block.runWithin?, if_neg (by have := body.2.2.1; dsimp only; omega)]
        exact if_pos (by rw [body.2.2.2]; exact short)
      simp [blocksOf, within]
  | succ full hypothesis =>
      have body := body_ofList (source.take blockSize)
      have taken : (source.take blockSize).length = min blockSize source.length := List.length_take
      rcases hypothesis covers.drop with ⟨content, bytes, runs, limited⟩
      refine ⟨.ofList (source.take blockSize) :: content, ?_, ?_, ?_⟩
      · rw [Content.bytes, List.flatMap_cons, Run.toList_ofList]
        change source.take blockSize ++ content.bytes = source
        rw [bytes, List.take_append_drop]
      · rw [blocksOf, List.mapM_cons, runs]
        rfl
      · intro limit bound
        have within : Block.runWithin? limit ⟨false, .run (.ofList (source.take blockSize))⟩ =
            some (.ofList (source.take blockSize)) := by
          rw [Block.runWithin?, if_neg (by have := body.2.2.1; dsimp only; omega)]
          exact if_pos (by rw [body.2.2.2, taken]; exact bound)
        have rest := limited limit (by rw [List.length_drop]; omega)
        rw [blocksOf, List.mapM_cons, within, rest]
        rfl

theorem length_writeBlocks_le {blockSize full : Nat} {source : List UInt8}
    (covers : Covers blockSize full source) :
    (writeBlocks blockSize full source).length ≤ source.length + 3 * (full + 1) := by
  have width (last : Bool) (bytes : List UInt8) :
      (Block.write ⟨last, .run (.ofList bytes)⟩).length ≤ bytes.length + 3 := by
    have body := (body_ofList bytes).2.2.1
    rw [Block.write, List.length_append, LittleEndian.length_toBytes, Body.length_write]
    dsimp only
    omega
  induction full generalizing source with
  | zero =>
      rw [writeBlocks]
      exact width true source
  | succ full hypothesis =>
      have first := width false (source.take blockSize)
      have rest := hypothesis covers.drop
      rw [List.length_take] at first
      rw [List.length_drop] at rest
      rw [writeBlocks, List.length_append]
      omega

/-! ## Headers -/

/-- The descriptor that the encoder writes. -/
def Descriptor.written (flag : Nat) (single : Bool) : Descriptor := ⟨flag, single, false, false, 0⟩

theorem ofByte_written {flag : Nat} (four : flag < 4) (single : Bool) :
    Descriptor.ofByte (UInt8.ofNat (flag * 64 + if single then 32 else 0)) =
      .written flag single := by
  have cases : flag = 0 ∨ flag = 1 ∨ flag = 2 ∨ flag = 3 := by omega
  rcases cases with rfl | rfl | rfl | rfl <;> cases single <;> decide

/-- The size field holds the size, in the width and with the bias of its flag.
Without a single segment, a small size would have no field. -/
theorem sizeField_spec {size : Nat} (known : size < unknownSize) {single : Bool}
    (large : single = false → 256 ≤ size) :
    ∃ flag number, sizeField size =
        (flag, LittleEndian.toBytes (Descriptor.written flag single).sizeWidth number) ∧
      flag < 4 ∧ number < LittleEndian.range (Descriptor.written flag single).sizeWidth ∧
      number + (Descriptor.written flag single).sizeBias = size ∧
      (Descriptor.written flag single).sizeWidth ≠ 0 ∧
      (Descriptor.written flag single).sizeWidth ≤ 8 := by
  unfold unknownSize at known
  unfold sizeField
  split
  · cases single with
    | true => exact ⟨0, size, rfl, by simp, by simpa [Descriptor.sizeWidth, Descriptor.written,
        LittleEndian.range], rfl, by decide, by decide⟩
    | false =>
        have contradiction := large rfl
        omega
  · split
    · refine ⟨1, size - 256, rfl, by simp, ?_, ?_, by simp [Descriptor.sizeWidth, Descriptor.written],
        by simp [Descriptor.sizeWidth, Descriptor.written]⟩
      · simp only [Descriptor.sizeWidth, Descriptor.written, LittleEndian.range]
        omega
      · simp only [Descriptor.sizeBias, Descriptor.written, if_true]
        omega
    · split
      · refine ⟨2, size, rfl, by simp, ?_, rfl, by simp [Descriptor.sizeWidth, Descriptor.written],
          by simp [Descriptor.sizeWidth, Descriptor.written]⟩
        simp only [Descriptor.sizeWidth, Descriptor.written, LittleEndian.range]
        omega
      · refine ⟨3, size, rfl, by simp, ?_, rfl, by simp [Descriptor.sizeWidth, Descriptor.written],
          by simp [Descriptor.sizeWidth, Descriptor.written]⟩
        simp only [Descriptor.sizeWidth, Descriptor.written, LittleEndian.range]
        omega

/-- What a header has to say about the content it was written for. -/
structure Header.Describes (header : Header) (log size : Nat) : Prop where
  unchecked : header.descriptor.checksum = false
  plain : header.dictionary = 0
  known : header.known? = some size
  window : header.windowSize = min (1 <<< log) size

/-- The bytes of a header: the magic number, the descriptor, and the two fields
that the descriptor announces. -/
theorem exists_writeHeader {log size : Nat} (least : 10 ≤ log) (known : size < unknownSize) :
    ∃ flag number, writeHeader log size =
        LittleEndian.toBytes 4 frameMagic ++
          UInt8.ofNat (flag * 64 + if decide (size ≤ 1 <<< log) then 32 else 0) ::
            (LittleEndian.toBytes (Descriptor.written flag (decide (size ≤ 1 <<< log))).windowWidth
                ((log - 10) * 8) ++
              LittleEndian.toBytes
                (Descriptor.written flag (decide (size ≤ 1 <<< log))).sizeWidth number) ∧
      flag < 4 ∧
      number < LittleEndian.range (Descriptor.written flag (decide (size ≤ 1 <<< log))).sizeWidth ∧
      number + (Descriptor.written flag (decide (size ≤ 1 <<< log))).sizeBias = size ∧
      (Descriptor.written flag (decide (size ≤ 1 <<< log))).sizeWidth ≠ 0 ∧
      (Descriptor.written flag (decide (size ≤ 1 <<< log))).sizeWidth ≤ 8 := by
  have large : decide (size ≤ 1 <<< log) = false → 256 ≤ size := by
    intro uncovered
    have more : 1 <<< log < size := by simpa using uncovered
    have power : 2 ^ 10 ≤ 2 ^ log := Nat.pow_le_pow_right (by decide) least
    rw [Nat.one_shiftLeft] at more
    omega
  rcases sizeField_spec known large with ⟨flag, number, field, four, spec⟩
  refine ⟨flag, number, ?_, four, spec⟩
  rw [writeHeader, field]
  by_cases covered : size ≤ 1 <<< log
  · simp [covered, Descriptor.written, Descriptor.windowWidth, LittleEndian.toBytes]
  · simp [covered, Descriptor.written, Descriptor.windowWidth, LittleEndian.toBytes]

/-- The window byte is a plain power of two. -/
theorem toNat_window {log : Nat} (most : log ≤ 27) (flag : Nat) (single : Bool) :
    (UInt8.ofNat ((log - 10) * 8 %
      LittleEndian.range (Descriptor.written flag single).windowWidth)).toNat =
        if single then 0 else (log - 10) * 8 := by
  cases single with
  | true => simp [Descriptor.written, Descriptor.windowWidth, LittleEndian.range, Nat.mod_one]
  | false =>
      simp only [Descriptor.written, Descriptor.windowWidth, LittleEndian.range,
        Bool.false_eq_true, if_false, UInt8.toNat_ofNat']
      omega

/-- No window that is written is too large for a decoder. -/
theorem windowLog_written_le {log : Nat} (most : log ≤ 27) (flag : Nat) (single : Bool) :
    Header.windowLog (UInt8.ofNat ((log - 10) * 8 %
      LittleEndian.range (Descriptor.written flag single).windowWidth)) ≤ Header.maxWindowLog := by
  rw [Header.windowLog, toNat_window most, Header.maxWindowLog]
  split <;> omega

/-- A window byte without eighths stands for a power of two. -/
theorem Header.windowSize_of_toNat {header : Header} {window : UInt8} {log : Nat} (least : 10 ≤ log)
    (given : header.window = some window) (value : window.toNat = (log - 10) * 8) :
    header.windowSize = 1 <<< log := by
  have power : 1 <<< log / 8 * 8 = 1 <<< log := by
    rw [Nat.one_shiftLeft]
    exact Nat.div_mul_cancel (Nat.pow_dvd_pow 2 (show 3 ≤ log by omega))
  have exponent : 10 + (log - 10) * 8 / 8 = log := by omega
  have eighths : 8 + (log - 10) * 8 % 8 = 8 := by omega
  simp only [windowSize, given, windowLog, value, exponent, eighths, power]

theorem drop_toBytes_append (count value : Nat) (rest : List UInt8) :
    (LittleEndian.toBytes count value ++ rest).drop count = rest := by
  rw [List.drop_append_of_le_length (by simp), List.drop_of_length_le (by simp), List.nil_append]

/-- The header is read back, by a driver that only asks for the size and by a
decoder. -/
theorem writeHeader_spec {log size : Nat} (least : 10 ≤ log) (most : log ≤ 27)
    (known : size < unknownSize) (rest : List UInt8) :
    (writeHeader log size).length ≤ 14 ∧ contentSize (writeHeader log size ++ rest) = .ok size ∧
      LittleEndian.read? 4 (writeHeader log size ++ rest) = some frameMagic ∧
      ∃ header, Header.read? ((writeHeader log size ++ rest).drop 4) = some (header, rest) ∧
        header.Describes log size := by
  rcases exists_writeHeader least known with ⟨flag, number, shape, four, small, sum, wide, eight⟩
  have window : (Descriptor.written flag (decide (size ≤ 1 <<< log))).windowWidth ≤ 1 := by
    unfold Descriptor.windowWidth
    split <;> decide
  have magic : ∀ after, LittleEndian.read? 4 (LittleEndian.toBytes 4 frameMagic ++ after) =
      Option.some frameMagic := LittleEndian.read?_toBytes_append 4 frameMagic
  have field := LittleEndian.read?_toBytes_append
    (Descriptor.written flag (decide (size ≤ 1 <<< log))).sizeWidth number rest
  rw [Nat.mod_eq_of_lt small] at field
  have plain : (Descriptor.written flag (decide (size ≤ 1 <<< log))).dictionaryWidth = 0 := rfl
  refine ⟨?_, ?_, ?_, ?_⟩
  · rw [shape]
    simp only [List.length_append, List.length_cons, LittleEndian.length_toBytes]
    omega
  · have frame : isSkippable frameMagic = false := by decide
    rw [shape, contentSize, List.append_assoc, magic]
    simp only [frame, Bool.false_eq_true, if_false, ne_eq, not_true_eq_false, drop_toBytes_append,
      List.cons_append, List.append_assoc, ofByte_written four]
    rw [if_neg (by simp [Descriptor.written]), if_neg wide]
    rw [plain, Nat.add_zero, drop_toBytes_append, field]
    exact congrArg Except.ok sum
  · rw [shape, List.append_assoc, magic]
  · rw [shape, List.append_assoc, drop_toBytes_append]
    simp only [List.cons_append, List.append_assoc, Header.read?, ofByte_written four]
    rw [LittleEndian.read?_toBytes_append, Option.bind_eq_bind, Option.bind_some,
      drop_toBytes_append]
    have none : ∀ bytes, LittleEndian.read? 0 bytes = some 0 := fun bytes => rfl
    rw [plain, none, Option.bind_some, List.drop_zero, field, Option.bind_some, drop_toBytes_append,
      sum]
    have accepted : ¬ ((Descriptor.written flag (decide (size ≤ 1 <<< log))).reserved ||
        decide (Header.maxWindowLog < Header.windowLog (UInt8.ofNat ((log - 10) * 8 %
          LittleEndian.range
            (Descriptor.written flag (decide (size ≤ 1 <<< log))).windowWidth)))) = true := by
      rw [decide_eq_false (Nat.not_lt.mpr (windowLog_written_le most flag _))]
      exact Bool.false_ne_true
    rw [if_neg accepted, if_neg wide]
    refine ⟨_, rfl, rfl, rfl, ?_, ?_⟩
    · simp [Header.known?, Nat.ne_of_lt known]
    · by_cases covered : size ≤ 1 <<< log
      · simp [Header.windowSize, Descriptor.written, covered]
      · have uncovered : decide (size ≤ 1 <<< log) ≠ true := by simpa using covered
        have value := toNat_window most flag (decide (size ≤ 1 <<< log))
        rw [if_neg uncovered] at value
        rw [Header.windowSize_of_toNat least (if_neg uncovered) value, Nat.min_eq_left (by omega)]

/-! ## Frames -/

def blockSize (log : Nat) : Nat := min (1 <<< log) maxBlock

/-- The blocks before the last one. -/
def fullBlocks (log length : Nat) : Nat := (length - 1) / blockSize log

theorem le_blockSize {log : Nat} (least : 10 ≤ log) : 1024 ≤ blockSize log := by
  have power : 2 ^ 10 ≤ 2 ^ log := Nat.pow_le_pow_right (by decide) least
  rw [blockSize, Nat.one_shiftLeft]
  exact Nat.le_min.mpr ⟨power, by decide⟩

theorem covers_encode {log : Nat} (least : 10 ≤ log) (source : List UInt8) :
    Covers (blockSize log) (fullBlocks log source.length) source := by
  have positive : 0 < blockSize log := Nat.lt_of_lt_of_le (by decide) (le_blockSize least)
  refine ⟨Nat.min_le_right _ _, ?_⟩
  have covered := Nat.lt_mul_div_succ (source.length - 1) positive
  rw [Nat.mul_comm] at covered
  unfold fullBlocks
  omega

theorem encode_eq (window : Option Nat) (source : List UInt8) :
    encode window source =
      writeHeader (window.getD defaultWindowLog) source.length ++
        writeBlocks (blockSize (window.getD defaultWindowLog))
          (fullBlocks (window.getD defaultWindowLog) source.length) source := rfl

/-- A frame has a header, so it is never empty. -/
theorem encode_ne_nil (window : Option Nat) (source : List UInt8) : encode window source ≠ [] := by
  rw [encode_eq, writeHeader]
  dsimp only
  split <;> simp

/-- A frame stays within the bound.  The blocks are never so short that three
bytes for each of them use up the margin of a long source. -/
theorem length_encode_le {window : Option Nat}
    (least : 10 ≤ window.getD defaultWindowLog) (most : window.getD defaultWindowLog ≤ 27)
    {source : List UInt8} (known : source.length < unknownSize) :
    (encode window source).length ≤
      source.length + source.length / 256 + (Bound.smallSource - source.length) / 2048 := by
  have header := (writeHeader_spec least most known []).1
  have blocks := length_writeBlocks_le (covers_encode least source)
  have count : fullBlocks (window.getD defaultWindowLog) source.length ≤
      (source.length - 1) / 1024 := Nat.div_le_div_left (le_blockSize least) (by decide)
  rw [encode_eq, List.length_append]
  unfold Bound.smallSource
  omega

/-- The frame is read back whole. -/
theorem read?_encode {window : Option Nat}
    (least : 10 ≤ window.getD defaultWindowLog) (most : window.getD defaultWindowLog ≤ 27)
    {source : List UInt8} (known : source.length < unknownSize) :
    contentSize (encode window source) = .ok source.length ∧
      ∃ header, header.Describes (window.getD defaultWindowLog) source.length ∧
        frameHeader? (encode window source) = some header ∧
        Part.read? (encode window source) = some (.frame ⟨header,
          blocksOf (blockSize (window.getD defaultWindowLog))
            (fullBlocks (window.getD defaultWindowLog) source.length) source, none⟩, []) := by
  rw [encode_eq]
  rcases writeHeader_spec least most known
    (writeBlocks (blockSize (window.getD defaultWindowLog))
      (fullBlocks (window.getD defaultWindowLog) source.length) source) with
    ⟨_, declared, magic, header, found, describes⟩
  refine ⟨declared, header, describes, ?_, ?_⟩
  · simp only [frameHeader?, magic, found, Option.bind_eq_bind, Option.bind_some, if_true,
      Option.pure_def]
  · have blocks := readAll?_writeBlocks (covers_encode least source) #[] []
    rw [List.append_nil] at blocks
    have frame : isSkippable frameMagic = false := by decide
    simp only [Part.read?, Frame.read?, magic, found, blocks, frame, Bool.false_eq_true, if_false,
      if_true, describes.unchecked, Option.bind_eq_bind, Option.bind_some, Option.pure_def]
    simp

/-! ## Streams -/

theorem Header.length_le (header : Header) : header.length ≤ portion := by
  have window : header.descriptor.windowWidth ≤ 1 := by
    unfold Descriptor.windowWidth
    split <;> decide
  have dictionary : header.descriptor.dictionaryWidth ≤ 4 := by
    unfold Descriptor.dictionaryWidth
    split <;> decide
  have size : header.descriptor.sizeWidth ≤ 8 := by
    unfold Descriptor.sizeWidth
    split
    · split <;> decide
    · decide
    · decide
    · decide
  rw [Header.length, portion, maxBlock]
  omega

/-- Both ways to decode a frame lead to the source. -/
theorem content?_frame {log : Nat} (least : 10 ≤ log) (most : log ≤ 27) {source : List UInt8}
    {header : Header} (describes : header.Describes log source.length) :
    ∃ content : Content, content.bytes = source ∧
      (source.length ≤ atOnceLimit →
        Frame.contentAtOnce? ⟨header,
          blocksOf (blockSize log) (fullBlocks log source.length) source, none⟩ = some content) ∧
      ∀ buffer, Frame.contentByBlocks? ⟨header,
        blocksOf (blockSize log) (fullBlocks log source.length) source, none⟩ buffer =
          some content := by
  rcases blocksOf_spec (covers_encode least source) with ⟨content, bytes, runs, limited⟩
  have size : content.size = source.length := by
    rw [← content.length_bytes, bytes]
  refine ⟨content, bytes, ?_, ?_⟩
  · intro small
    simp [Frame.contentAtOnce?, runs, describes.plain, describes.known, size, small,
      Frame.confirms]
  · intro buffer
    have window : header.keptWindow ≤ maxWindow := by
      have power : 2 ^ log ≤ 2 ^ 27 := Nat.pow_le_pow_right (by decide) most
      rw [Header.keptWindow, describes.window, Nat.one_shiftLeft, maxWindow, minWindow]
      omega
    have limit : min (blockSize log) source.length ≤ header.blockLimit := by
      rw [Header.blockLimit, describes.window, blockSize]
      omega
    have room : buffer < source.length ∨ source.length ≤ buffer := Nat.lt_or_ge _ _
    simp [Frame.contentByBlocks?, describes.plain, window, limited _ limit, describes.known, size,
      Frame.confirms, room]

/-- The decoder takes the whole frame, in the first portion or block by block. -/
theorem decodePart?_encode {window : Option Nat}
    (least : 10 ≤ window.getD defaultWindowLog) (most : window.getD defaultWindowLog ≤ 27)
    {source : List UInt8} (known : source.length < unknownSize) :
    ∃ decoded, decodePart? 0 .empty (encode window source) = some decoded ∧
      decoded.content.bytes = source ∧ decoded.rest = [] := by
  rcases read?_encode least most known with ⟨_, header, describes, front, part⟩
  rcases content?_frame least most describes with ⟨content, bytes, atOnce, byBlocks⟩
  have blocks : ∃ decoded, byBlocks? .empty (encode window source) = some decoded ∧
      decoded.content.bytes = source ∧ decoded.rest = [] := by
    simp only [byBlocks?, part, byBlocks, Option.bind_eq_bind, Option.bind_some, Option.pure_def]
    exact ⟨_, rfl, bytes, rfl⟩
  unfold decodePart?
  rw [front]
  dsimp only
  split
  · exact blocks
  · rename_i found start rest taken
    unfold atOnce? at taken
    have start : view 0 header = (0, portion) := by
      rw [view, Nat.zero_mod, Nat.sub_zero, if_pos header.length_le]
    split at taken
    · rename_i little
      simp only [describes.known, Option.any_some, decide_eq_true_eq] at little
      simp only [start, List.drop_zero, part, Option.bind_eq_bind, Option.bind_some] at taken
      split at taken
      · cases taken
        exact ⟨_, by rw [Part.contentAtOnce?, atOnce little]; rfl, bytes, rfl⟩
      · simp at taken
    · simp at taken

/-- What is encoded declares the size of the source and decodes to it. -/
theorem encode_spec {window : Option Nat}
    (least : 10 ≤ window.getD defaultWindowLog) (most : window.getD defaultWindowLog ≤ 27)
    {source : List UInt8} (known : source.length < unknownSize) :
    (encode window source).length ≤
        source.length + source.length / 256 + (Bound.smallSource - source.length) / 2048 ∧
      contentSize (encode window source) = .ok source.length ∧
      ∃ content, content? (encode window source) = some content ∧ content.bytes = source := by
  refine ⟨length_encode_le least most known, (read?_encode least most known).1, ?_⟩
  rcases decodePart?_encode least most known with ⟨decoded, found, bytes, nothing⟩
  have filled : (encode window source).isEmpty = false :=
    List.isEmpty_eq_false_iff.mpr (encode_ne_nil window source)
  refine ⟨decoded.content, ?_, bytes⟩
  rw [content?, filled, contents?, filled]
  simp only [Bool.false_eq_true, if_false]
  split
  · rename_i missing
    rw [found] at missing
    contradiction
  · rename_i other taken
    rw [found] at taken
    cases taken
    rw [contents?, nothing]
    simp

end RoccCodec.Zstd
