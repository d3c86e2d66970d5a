import RoccCodec.Zstd.Frame
import RoccCodec.Zstd.Storage

namespace RoccCodec.Zstd

/-!
# Zstd streams

A stream is read in portions.  A frame that declares little content is decoded
at once if all of it lies in the portion at hand, and block by block otherwise.
The portion is looked at from where it is when the header has been read: from
the start of the frame, or from its own start if the header began in the portion
before.
-/

/-- The bytes of a portion: a full block with what goes before it. -/
def portion : Nat := maxBlock + 3

/-- A part of a stream: a frame, or so many bytes without content. -/
inductive Part where
  | frame (frame : Frame)
  | skippable (count : Nat)
  deriving DecidableEq, Repr

namespace Part

/-- The part at the head of the bytes, and what follows it. -/
def read? (source : List UInt8) : Option (Part × List UInt8) := do
  let magic ← LittleEndian.read? 4 source
  if isSkippable magic then
    let count ← LittleEndian.read? 4 (source.drop 4)
    let rest := source.drop 8
    if (rest.take count).length = count then
      return (.skippable count, rest.drop count)
    else
      none
  else
    let (whole, rest) ← Frame.read? source
    return (.frame whole, rest)

def length : Part → Nat
  | .frame whole => whole.length
  | .skippable count => 8 + count

def contentAtOnce? : Part → Option Content
  | .frame whole => whole.contentAtOnce?
  | .skippable _ => some []

theorem length_of_read? {source after : List UInt8} {part : Part}
    (found : read? source = some (part, after)) : after.length < source.length := by
  simp only [read?, Option.bind_eq_bind, Option.bind_eq_some_iff, Option.pure_def] at found
  obtain ⟨_, _, found⟩ := found
  split at found
  · simp only [Option.bind_eq_some_iff] at found
    obtain ⟨_, width, found⟩ := found
    have enough : ¬ (source.drop 4).length < 4 := by
      intro short
      rw [LittleEndian.read?_eq_none_iff.mpr short] at width
      simp at width
    rw [List.length_drop] at enough
    split at found
    · simp only [Option.some.injEq, Prod.mk.injEq] at found
      rw [← found.2]
      simp only [List.length_drop]
      omega
    · simp at found
  · simp only [Option.bind_eq_some_iff, Option.some.injEq, Prod.mk.injEq, Prod.exists] at found
    obtain ⟨_, _, taken, _, same⟩ := found
    exact same ▸ Frame.length_of_read? taken

end Part

/-- What decoding a part leaves, and the number of bytes it took. -/
structure Decoded where
  content : Content
  length : Nat
  storage : Storage
  rest : List UInt8

/-- The header of the frame at the head of the bytes, if a frame is there. -/
def frameHeader? (source : List UInt8) : Option Header := do
  let magic ← LittleEndian.read? 4 source
  if magic = frameMagic then
    let (header, _) ← Header.read? (source.drop 4)
    return header
  else
    none

/-- Where in the source the portion is looked at from once the header has been
read, and where it ends. -/
def view (position : Nat) (header : Header) : Nat × Nat :=
  let left := portion - position % portion
  if header.length ≤ left then (0, left) else (left, left + portion)

/-- The part that can be decoded at once in place of a frame with this header,
where it starts, and what follows it. -/
def atOnce? (position : Nat) (header : Header) (source : List UInt8) :
    Option (Part × Nat × List UInt8) :=
  if header.known?.any fun size => decide (size ≤ atOnceLimit) then do
    let (start, stop) := view position header
    let (part, rest) ← Part.read? (source.drop start)
    if start + part.length ≤ stop then return (part, start, rest) else none
  else
    none

/-- Decode a part block by block. -/
def byBlocks? (storage : Storage) (source : List UInt8) : Option Decoded := do
  let (part, rest) ← Part.read? source
  match part with
  | .skippable count =>
    let storage := storage.prepare 4 (min count (minWindow + 64))
    return ⟨[], part.length, storage, rest⟩
  | .frame frame =>
    let header := frame.header
    let output := header.keptWindow + 2 * header.blockLimit + 64
    let storage := storage.prepare (max header.blockLimit 4)
      (min (header.known?.getD output) output)
    let content ← frame.contentByBlocks? storage.output
    return ⟨content, part.length, storage, rest⟩

/-- Decode the part at the head of the source, which is at this position of the
stream. -/
def decodePart? (position : Nat) (storage : Storage) (source : List UInt8) : Option Decoded :=
  match frameHeader? source with
  | none => byBlocks? storage source
  | some header =>
    match atOnce? position header source with
    | none => byBlocks? storage source
    | some (part, start, rest) =>
      part.contentAtOnce?.map fun content => ⟨content, start + part.length, storage, rest⟩

theorem length_of_decodePart? {position : Nat} {storage : Storage} {source : List UInt8}
    {decoded : Decoded} (found : decodePart? position storage source = some decoded) :
    decoded.rest.length < source.length := by
  have blocks {decoded : Decoded} (found : byBlocks? storage source = some decoded) :
      decoded.rest.length < source.length := by
    simp only [byBlocks?, Option.bind_eq_bind, Option.bind_eq_some_iff, Option.pure_def,
      Prod.exists] at found
    obtain ⟨part, rest, taken, found⟩ := found
    have shorter := Part.length_of_read? taken
    split at found
    · simp only [Option.some.injEq] at found
      exact found ▸ shorter
    · simp only [Option.bind_eq_some_iff, Option.some.injEq] at found
      obtain ⟨_, _, same⟩ := found
      exact same ▸ shorter
  unfold decodePart? at found
  split at found
  · exact blocks found
  · split at found
    · exact blocks found
    · rename_i part start rest taken
      simp only [Option.map_eq_some_iff] at found
      obtain ⟨_, _, same⟩ := found
      unfold atOnce? at taken
      split at taken
      · simp only [Option.bind_eq_bind, Option.bind_eq_some_iff, Option.pure_def,
          Prod.exists] at taken
        obtain ⟨part, rest, read, taken⟩ := taken
        have shorter := Part.length_of_read? read
        rw [List.length_drop] at shorter
        split at taken
        · simp only [Option.some.injEq, Prod.mk.injEq] at taken
          rw [← same]
          dsimp only
          rw [← taken.2.2]
          omega
        · simp at taken
      · simp at taken

/-- The content of the rest of a stream, on top of what was decoded before. -/
def contents? (before : Array Run) (position : Nat) (storage : Storage) (source : List UInt8) :
    Option (Array Run) :=
  if source.isEmpty then some before
  else
    match _found : decodePart? position storage source with
    | none => none
    | some decoded =>
      contents? (decoded.content.foldl Array.push before) (position + decoded.length)
        decoded.storage decoded.rest
termination_by source.length
decreasing_by exact length_of_decodePart? _found

/-- The content of a stream, if all of it is well formed and there is any part. -/
def content? (source : List UInt8) : Option Content :=
  if source.isEmpty then none else (contents? #[] 0 .empty source).map Array.toList

end RoccCodec.Zstd
