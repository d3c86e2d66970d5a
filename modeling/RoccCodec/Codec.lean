import RoccCodec.Bound
import RoccCodec.Device.Codecs
import RoccCodec.Pipeline

namespace RoccCodec.Algorithm

/-!
# The codecs by name

What a driver needs of a codec: the bound on a compressed size, the size a
source declares, and what the host itself makes of a source.
-/

/-- The most a source of this length can take when compressed. -/
def bound : Algorithm → Nat → Except Overflow Nat
  | .snappy => Bound.snappy
  | .zstd => Bound.zstd

/-- The size a compressed source declares. -/
def declaredLength : Algorithm → List UInt8 → Except Fault Nat
  | .snappy => Snappy.declaredLength
  | .zstd => Zstd.contentSize

end RoccCodec.Algorithm

namespace RoccCodec.Codecs

variable (codecs : Codecs)

/-- Compress at a level, with the window that the codec chooses. -/
def compress? (level : Int32) : Algorithm → List UInt8 → Option (List UInt8)
  | .snappy => codecs.snappyEncode
  | .zstd => codecs.zstdEncode level none none

/-- Decompress all of a source. -/
def decompress? : Algorithm → List UInt8 → Option (List UInt8)
  | .snappy => codecs.snappyDecode
  | .zstd => fun source => (codecs.zstdDecode source).map Zstd.Content.bytes

/-- A compressed output decodes to the source it was made from. -/
def verifies (algorithm : Algorithm) (output source : List UInt8) : Bool :=
  codecs.decompress? algorithm output == some source

end RoccCodec.Codecs

namespace RoccCodec.Algorithm

def verifies (algorithm : Algorithm) (output source : List UInt8) : Bool :=
  Codecs.software.verifies algorithm output source

end RoccCodec.Algorithm
