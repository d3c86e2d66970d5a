import RoccCodec.Snappy
import RoccCodec.Zstd.Stream

namespace RoccCodec

/-!
# The codecs behind a device

A device hands the source of a request to an encoder or a decoder and passes on
what comes back.  All it asks of them is collected here, so that what is said of
devices can be said for any codecs.
-/

/-- Encoders and decoders, each of which may refuse its source.  The window and
the hash table of a Zstd encoder are binary logarithms, where they are not left
to the encoder. -/
structure Codecs where
  snappyEncode (source : List UInt8) : Option (List UInt8)
  snappyDecode (block : List UInt8) : Option (List UInt8)
  zstdEncode (level : Int32) (windowLog hashLog : Option Nat) (source : List UInt8) :
    Option (List UInt8)
  zstdDecode (stream : List UInt8) : Option Zstd.Content

namespace Codecs

/-- The codecs of this library.  The Zstd encoder searches for no matches, so
neither the level nor the hash table has an influence on its output. -/
def software : Codecs where
  snappyEncode := Snappy.encode?
  snappyDecode := Snappy.decode?
  zstdEncode _ windowLog _ source := some (Zstd.encode windowLog source)
  zstdDecode := Zstd.content?

end Codecs

end RoccCodec
