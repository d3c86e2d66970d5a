import RoccCodec.Bound
import RoccCodec.Request
import RoccCodec.Snappy
import RoccCodec.Zstd.Header

namespace RoccCodec

/-!
# Tasks

The type of a task names its pipeline, so a task can only reach the facade it is
for.  A compression needs room for the most its codec can produce, and a
decompression room for the size its source declares.
-/

/-- What a caller asks of a pipeline. -/
inductive Task : Pipeline → Type where
  | snappyCompress (source destination : Buffer) : Task .snappyCompress
  | snappyDecompress (source destination : Buffer) : Task .snappyDecompress
  | zstdCompress (source literals sequences destination : Buffer) (level : Int32) :
    Task .zstdCompress
  | zstdDecompress (source workspace destination : Buffer) : Task .zstdDecompress

namespace Task

/-- The task of a pipeline over these buffers; it takes the ones it needs. -/
def ofBuffers (source destination literals sequences workspace : Buffer) (level : Int32) :
    (pipeline : Pipeline) → Task pipeline
  | .snappyCompress => .snappyCompress source destination
  | .snappyDecompress => .snappyDecompress source destination
  | .zstdCompress => .zstdCompress source literals sequences destination level
  | .zstdDecompress => .zstdDecompress source workspace destination

/-- Room for `needed` bytes in the destination. -/
def checkDestination (needed : Nat) (destination : Buffer) : Except Failure Unit :=
  if needed ≤ destination.length.toNat then .ok ()
  else .error (.refused (.destinationTooSmall needed destination.length.toNat))

/-- Room for `needed` bytes in the smallest of the scratch buffers. -/
def checkScratch (needed available : Nat) : Except Failure Unit :=
  if needed ≤ available then .ok ()
  else .error (.refused (.scratchTooSmall needed available))

def contents (memory : Memory) (source : Buffer) : List UInt8 :=
  memory.read source.address.toNat source.length.toNat

/-- The request for a task, if its buffers are large enough. -/
def request (memory : Memory) : {pipeline : Pipeline} → Task pipeline → Except Failure Request
  | _, .snappyCompress source destination => do
    let needed ← Failure.ofOverflow (Bound.snappy source.length.toNat)
    checkDestination needed destination
    return ⟨source, .none, destination, none⟩
  | _, .snappyDecompress source destination => do
    let needed ← Failure.ofFault (Snappy.declaredLength (contents memory source))
    checkDestination needed destination
    return ⟨source, .none, destination, none⟩
  | _, .zstdCompress source literals sequences destination level => do
    let needed ← Failure.ofOverflow (Bound.zstd source.length.toNat)
    checkDestination needed destination
    checkScratch source.length.toNat (min literals.length.toNat sequences.length.toNat)
    return ⟨source, .streams literals sequences, destination, some level⟩
  | _, .zstdDecompress source workspace destination => do
    let needed ← Failure.ofFault (Zstd.contentSize (contents memory source))
    checkDestination needed destination
    checkScratch needed workspace.length.toNat
    return ⟨source, .workspace workspace.address, destination, none⟩

end Task

end RoccCodec
