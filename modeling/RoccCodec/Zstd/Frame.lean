import RoccCodec.Digest
import RoccCodec.Zstd.Block
import RoccCodec.Zstd.Header

namespace RoccCodec.Zstd

/-!
# Zstd frames

Content comes out of a frame in one of two ways.  At once, all that counts is
that there is little of it.  Block by block, the window and every block are
limited, and there has to be room for what the frame declares; the declared size
is compared where content ends, so a frame whose last block takes no bytes is
not measured.
-/

/-- The largest window a decoder keeps for a frame. -/
def maxWindow : Nat := 0x8000001

/-- The smallest window a decoder keeps. -/
def minWindow : Nat := 0x400

/-- No more content than this is decoded at once. -/
def atOnceLimit : Nat := 8192

namespace Header

/-- The window a decoder keeps for the frame. -/
def keptWindow (header : Header) : Nat := max header.windowSize minWindow

/-- The most content a block of the frame may have. -/
def blockLimit (header : Header) : Nat := min header.windowSize maxBlock

end Header

/-- A frame as it is read, with the low half of the digest of the content. -/
structure Frame where
  header : Header
  blocks : List Block
  digest : Option Nat
  deriving DecidableEq, Repr

namespace Frame

/-- The frame at the head of the bytes, and what follows it. -/
def read? (source : List UInt8) : Option (Frame × List UInt8) := do
  let magic ← LittleEndian.read? 4 source
  if magic = frameMagic then
    let (header, rest) ← Header.read? (source.drop 4)
    let (blocks, rest) ← Block.readAll? #[] rest
    if header.descriptor.checksum then
      let digest ← LittleEndian.read? 4 rest
      return (⟨header, blocks.toList, some digest⟩, rest.drop 4)
    else
      return (⟨header, blocks.toList, none⟩, rest)
  else
    none

theorem length_of_read? {source after : List UInt8} {frame : Frame}
    (found : read? source = some (frame, after)) : after.length < source.length := by
  simp only [read?, Option.bind_eq_bind, Option.bind_eq_some_iff, Option.pure_def] at found
  obtain ⟨_, _, found⟩ := found
  split at found
  · simp only [Option.bind_eq_some_iff, Prod.exists] at found
    obtain ⟨_, _, header, _, _, blocks, found⟩ := found
    have first := Header.length_of_read? header
    have second := Block.length_of_readAll? blocks
    rw [List.length_drop] at first
    split at found
    · simp only [Option.bind_eq_some_iff, Option.some.injEq, Prod.mk.injEq] at found
      obtain ⟨_, _, _, same⟩ := found
      rw [← same, List.length_drop]
      omega
    · simp only [Option.some.injEq, Prod.mk.injEq] at found
      rw [← found.2]
      omega
  · simp at found

def length (frame : Frame) : Nat :=
  frame.blocks.foldl (fun sum block => sum + block.length) frame.header.length
    + if frame.digest.isSome then 4 else 0

/-- The digest, if there is one, is that of the content. -/
def confirms (frame : Frame) (content : Content) : Bool :=
  frame.digest.all fun digest =>
    digest == (Digest.xxh64 content.bytes).toNat % 0x100000000

/-- The content, decoded at once. -/
def contentAtOnce? (frame : Frame) : Option Content := do
  let content : Content ← frame.blocks.mapM Block.run?
  if frame.header.dictionary == 0 && decide (content.size ≤ atOnceLimit)
      && frame.header.known?.all (fun size => size == content.size)
      && frame.confirms content then
    some content
  else
    none

/-- The last block takes no bytes. -/
def endsEmpty (frame : Frame) : Bool :=
  frame.blocks.getLast?.any fun block => block.body.width == 0

/-- The content, decoded block by block into a buffer.  If the buffer holds what
the frame declares, the content has to stay within it.  Otherwise it goes
round in it, and any length fits. -/
def contentByBlocks? (frame : Frame) (buffer : Nat) : Option Content :=
  if frame.header.dictionary == 0 && decide (frame.header.keptWindow ≤ maxWindow) then do
    let content : Content ← frame.blocks.mapM (Block.runWithin? frame.header.blockLimit)
    let fits (size : Nat) : Bool :=
      (decide (buffer < size) || decide (content.size ≤ buffer))
        && (frame.endsEmpty || size == content.size)
    if frame.header.known?.all fits && frame.confirms content then some content else none
  else
    none

end Frame

/-- The blocks of a source: full ones, and the last one. -/
def writeBlocks (blockSize : Nat) : Nat → List UInt8 → List UInt8
  | 0, source => Block.write ⟨true, .run (.ofList source)⟩
  | full + 1, source =>
    Block.write ⟨false, .run (.ofList (source.take blockSize))⟩
      ++ writeBlocks blockSize full (source.drop blockSize)

/-- One frame with this content, its window given as a binary logarithm. -/
def encode (windowLog : Option Nat) (source : List UInt8) : List UInt8 :=
  let log := windowLog.getD defaultWindowLog
  let size := min (1 <<< log) maxBlock
  writeHeader log source.length ++ writeBlocks size ((source.length - 1) / size) source

end RoccCodec.Zstd
