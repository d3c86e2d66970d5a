import RoccCodec.Fault
import RoccCodec.LittleEndian

namespace RoccCodec.Zstd

/-!
# Zstd frame headers

A magic number and a descriptor byte, which tells the fields that follow: the
window, the number of a dictionary, and the size of the content.  `contentSize`
is what a driver asks of a frame before it sends it.  It stops as soon as it has
its answer and so does not look at the window byte of a frame without a size.
-/

def frameMagic : Nat := 0xFD2FB528

/-- Sixteen magic numbers mark frames whose content is to be skipped. -/
def isSkippable (magic : Nat) : Bool := magic / 16 == 0x184D2A5

/-- The fields a descriptor byte announces.  Two flags select the widths of the
size field and the dictionary number, the reserved bit has to be clear, and
with the checksum bit a digest of the content follows the last block. -/
structure Descriptor where
  sizeFlag : Nat
  singleSegment : Bool
  reserved : Bool
  checksum : Bool
  dictionaryFlag : Nat
  deriving DecidableEq, Repr

namespace Descriptor

def ofByte (byte : UInt8) : Descriptor where
  sizeFlag := byte.toNat / 64
  singleSegment := byte.toNat / 32 % 2 == 1
  reserved := byte.toNat / 8 % 2 == 1
  checksum := byte.toNat / 4 % 2 == 1
  dictionaryFlag := byte.toNat % 4

/-- Bytes of the window field. -/
def windowWidth (descriptor : Descriptor) : Nat :=
  if descriptor.singleSegment then 0 else 1

def dictionaryWidth (descriptor : Descriptor) : Nat :=
  match descriptor.dictionaryFlag with
  | 0 => 0
  | 1 => 1
  | 2 => 2
  | _ => 4

def sizeWidth (descriptor : Descriptor) : Nat :=
  match descriptor.sizeFlag with
  | 0 => if descriptor.singleSegment then 1 else 0
  | 1 => 2
  | 2 => 4
  | _ => 8

/-- What is added to the number in the size field: two bytes count from 256 on. -/
def sizeBias (descriptor : Descriptor) : Nat :=
  if descriptor.sizeFlag = 1 then 256 else 0

end Descriptor

/-- The size of the content the first frame of the bytes declares. -/
def contentSize (source : List UInt8) : Except Fault Nat :=
  match LittleEndian.read? 4 source with
  | none => .error .malformedFrame
  | some magic =>
    if isSkippable magic then .error .unknownContentSize
    else if magic ≠ frameMagic then .error .malformedFrame
    else
      match source.drop 4 with
      | [] => .error .malformedFrame
      | byte :: rest =>
        let descriptor := Descriptor.ofByte byte
        if descriptor.reserved then .error .malformedFrame
        else if descriptor.sizeWidth = 0 then .error .unknownContentSize
        else
          let field := rest.drop (descriptor.windowWidth + descriptor.dictionaryWidth)
          match LittleEndian.read? descriptor.sizeWidth field with
          | none => .error .malformedFrame
          | some number => .ok (number + descriptor.sizeBias)

/-- The number in a size field of eight bytes that stands for no size. -/
def unknownSize : Nat := 0xFFFFFFFFFFFFFFFF

/-- What a complete header says.  Only a single segment has no window byte. -/
structure Header where
  descriptor : Descriptor
  window : Option UInt8
  dictionary : Nat
  size : Option Nat
  deriving DecidableEq, Repr

namespace Header

/-- The binary logarithm of the window, rounded down. -/
def windowLog (window : UInt8) : Nat := 10 + window.toNat / 8

/-- The largest logarithm that is in use. -/
def maxWindowLog : Nat := 31

/-- The header behind the magic number, and what follows it. -/
def read? (source : List UInt8) : Option (Header × List UInt8) :=
  match source with
  | [] => none
  | byte :: rest => do
    let descriptor := Descriptor.ofByte byte
    let window ← LittleEndian.read? descriptor.windowWidth rest
    let rest := rest.drop descriptor.windowWidth
    let dictionary ← LittleEndian.read? descriptor.dictionaryWidth rest
    let rest := rest.drop descriptor.dictionaryWidth
    let number ← LittleEndian.read? descriptor.sizeWidth rest
    let rest := rest.drop descriptor.sizeWidth
    if descriptor.reserved || decide (maxWindowLog < windowLog (UInt8.ofNat window)) then none
    else
      return ({
        descriptor
        window := if descriptor.singleSegment then none else some (UInt8.ofNat window)
        dictionary
        size := if descriptor.sizeWidth = 0 then none else some (number + descriptor.sizeBias) },
        rest)

/-- The bytes of a header with its magic number. -/
def length (header : Header) : Nat :=
  5 + header.descriptor.windowWidth + header.descriptor.dictionaryWidth
    + header.descriptor.sizeWidth

/-- The size of the content, if the header gives one. -/
def known? (header : Header) : Option Nat := header.size.filter fun size => size != unknownSize

/-- The bytes a decoder has to keep: five bits of the window byte are an
exponent, and three are eighths on top of it.  A single segment keeps all. -/
def windowSize (header : Header) : Nat :=
  match header.window with
  | some window => (1 <<< windowLog window) / 8 * (8 + window.toNat % 8)
  | none => header.size.getD 0

theorem length_of_read? {source after : List UInt8} {header : Header}
    (found : read? source = some (header, after)) : after.length < source.length := by
  unfold read? at found
  split at found
  · simp at found
  · simp only [Option.bind_eq_bind, Option.bind_eq_some_iff, Option.pure_def] at found
    obtain ⟨_, _, _, _, _, _, found⟩ := found
    split at found
    · simp at found
    · simp only [Option.some.injEq, Prod.mk.injEq] at found
      rw [← found.2]
      simp only [List.length_drop, List.length_cons]
      omega

end Header

/-- The window of an encoder that is given none, as its binary logarithm: the
largest one that every decoder keeps. -/
def defaultWindowLog : Nat := 27

/-- The size field the encoder writes: the narrowest that holds the size. -/
def sizeField (size : Nat) : Nat × List UInt8 :=
  if size < 256 then (0, LittleEndian.toBytes 1 size)
  else if size < 65792 then (1, LittleEndian.toBytes 2 (size - 256))
  else if size < 0xFFFFFFFF then (2, LittleEndian.toBytes 4 size)
  else (3, LittleEndian.toBytes 8 size)

/-- The header of a frame with content of this size.  A window that covers the
content makes the frame a single segment. -/
def writeHeader (windowLog : Nat) (size : Nat) : List UInt8 :=
  let (flag, field) := sizeField size
  let magic := LittleEndian.toBytes 4 frameMagic
  if size ≤ 1 <<< windowLog then magic ++ UInt8.ofNat (flag * 64 + 32) :: field
  else magic ++ UInt8.ofNat (flag * 64) :: UInt8.ofNat ((windowLog - 10) * 8) :: field

end RoccCodec.Zstd
