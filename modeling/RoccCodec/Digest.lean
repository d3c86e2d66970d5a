import RoccCodec.LittleEndian

namespace RoccCodec.Digest

/-!
# The 64-bit digest of a Zstd frame

XXH64 with seed zero.  Four lanes take stripes of 32 bytes; what is left over is
mixed in by words, half words and bytes.
-/

def prime1 : UInt64 := 0x9E3779B185EBCA87
def prime2 : UInt64 := 0xC2B2AE3D27D4EB4F
def prime3 : UInt64 := 0x165667B19E3779F9
def prime4 : UInt64 := 0x85EBCA77C2B2AE63
def prime5 : UInt64 := 0x27D4EB2F165667C5

/-- Move the bits of a word up, the ones that leave it coming in from below. -/
def rotate (word : UInt64) (bits : UInt64) : UInt64 :=
  (word <<< bits) ||| (word >>> (64 - bits))

/-- Mix one word of input into a lane. -/
def round (lane input : UInt64) : UInt64 :=
  rotate (lane + input * prime2) 31 * prime1

/-- The four lanes that stripes are mixed into. -/
structure Lanes where
  first : UInt64
  second : UInt64
  third : UInt64
  fourth : UInt64

namespace Lanes

def start : Lanes := ⟨prime1 + prime2, prime2, 0, 0 - prime1⟩

/-- Mix in a number of stripes and give what follows them. -/
def absorb (lanes : Lanes) : Nat → List UInt8 → Lanes × List UInt8
  | 0, bytes => (lanes, bytes)
  | stripes + 1, bytes =>
    let word (index : Nat) : UInt64 :=
      UInt64.ofNat (LittleEndian.ofBytes ((bytes.drop (8 * index)).take 8))
    absorb ⟨round lanes.first (word 0), round lanes.second (word 1),
      round lanes.third (word 2), round lanes.fourth (word 3)⟩ stripes (bytes.drop 32)

def merge (lanes : Lanes) : UInt64 :=
  let sum := rotate lanes.first 1 + rotate lanes.second 7 + rotate lanes.third 12
    + rotate lanes.fourth 18
  [lanes.first, lanes.second, lanes.third, lanes.fourth].foldl
    (fun hash lane => (hash ^^^ round 0 lane) * prime1 + prime4) sum

end Lanes

/-- Mix in whole words. -/
def absorbWords (hash : UInt64) : Nat → List UInt8 → UInt64 × List UInt8
  | 0, bytes => (hash, bytes)
  | words + 1, bytes =>
    let word := UInt64.ofNat (LittleEndian.ofBytes (bytes.take 8))
    absorbWords (rotate (hash ^^^ round 0 word) 27 * prime1 + prime4) words (bytes.drop 8)

/-- Mix in a half word, if there is one left. -/
def absorbHalf (hash : UInt64) (bytes : List UInt8) : UInt64 × List UInt8 :=
  match LittleEndian.read? 4 bytes with
  | none => (hash, bytes)
  | some half =>
    (rotate (hash ^^^ UInt64.ofNat half * prime1) 23 * prime2 + prime3, bytes.drop 4)

/-- Mix in single bytes. -/
def absorbBytes (hash : UInt64) (bytes : List UInt8) : UInt64 :=
  bytes.foldl (fun hash byte => rotate (hash ^^^ byte.toUInt64 * prime5) 11 * prime1) hash

/-- Spread every bit over the word. -/
def finish (hash : UInt64) : UInt64 :=
  let hash := (hash ^^^ (hash >>> 33)) * prime2
  let hash := (hash ^^^ (hash >>> 29)) * prime3
  hash ^^^ (hash >>> 32)

/-- The XXH64 digest with seed zero. -/
def xxh64 (bytes : List UInt8) : UInt64 :=
  let length := bytes.length
  let (hash, rest) :=
    if length < 32 then (prime5, bytes)
    else
      let (lanes, rest) := Lanes.start.absorb (length / 32) bytes
      (lanes.merge, rest)
  let (hash, rest) := absorbWords (hash + UInt64.ofNat length) (length % 32 / 8) rest
  let (hash, rest) := absorbHalf hash rest
  finish (absorbBytes hash rest)

end RoccCodec.Digest
