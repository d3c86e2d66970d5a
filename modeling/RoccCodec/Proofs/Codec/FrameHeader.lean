import Mathlib.Algebra.Ring.Nat
import Mathlib.Data.List.Infix
import RoccCodec.Zstd.Header

namespace RoccCodec

/-!
# The format of a frame header

A frame header is described here by its bytes: the magic number, a descriptor, and
three fields whose widths are read off the bits of the descriptor (`Zstd.Preamble`).
The driver reads the size in one of these fields without reading the others.
`Zstd.contentSize_bytes_append` says what it makes of every header and of whatever
stands behind it, and `Zstd.reads_sizes` that it finds a size nowhere else.

A header that is cut off has no size either, but the driver does not see every cut: where
the descriptor announces no size, the bytes that are missing behind it are not looked for
(`Zstd.refuses_cut_headers`).
-/

namespace LittleEndian

theorem read?_append {field : List UInt8} {count : Nat} (width : field.length = count)
    (rest : List UInt8) : read? count (field ++ rest) = some (ofBytes field) := by
  subst width
  simp [read?]

/-- What is read are the first bytes, and they determine it. -/
theorem read?_eq_some_iff {count value : Nat} {bytes : List UInt8} :
    read? count bytes = some value ↔
      ∃ field rest, bytes = field ++ rest ∧ field.length = count ∧ ofBytes field = value := by
  constructor
  · intro found
    rcases Option.ite_none_right_eq_some.mp found with ⟨width, same⟩
    exact ⟨bytes.take count, bytes.drop count, (List.take_append_drop count bytes).symm, width,
      Option.some.inj same⟩
  · rintro ⟨field, rest, rfl, width, rfl⟩
    exact read?_append width rest

end LittleEndian

namespace Zstd

/-- The magic number of a frame, lowest byte first. -/
def magicBytes : List UInt8 := [0x28, 0xB5, 0x2F, 0xFD]

def dictionaryBytes (descriptor : UInt8) : Nat :=
  if descriptor &&& 0x03 = 0x03 then 4 else (descriptor &&& 0x03).toNat

/-- The bytes of the size, by the highest two bits: two, four or eight.  With neither of
them, a single segment has one byte and any other frame has none. -/
def sizeBytes (descriptor : UInt8) : Nat :=
  if descriptor >>> 6 = 0 then (if descriptor &&& 0x20 = 0 then 0 else 1)
  else 2 ^ (descriptor >>> 6).toNat

/-- The number that a size field of zeros stands for: two bytes count from 256 on. -/
def leastSize (descriptor : UInt8) : Nat := if sizeBytes descriptor = 2 then 256 else 0

/-- The fields in front of the blocks of a frame. -/
structure Preamble where
  descriptor : UInt8
  window : List UInt8
  dictionary : List UInt8
  size : List UInt8
  reserved : descriptor &&& 0x08 = 0
  length_window : window.length = if descriptor &&& 0x20 = 0 then 1 else 0
  length_dictionary : dictionary.length = dictionaryBytes descriptor
  length_size : size.length = sizeBytes descriptor

namespace Preamble

def bytes (preamble : Preamble) : List UInt8 :=
  magicBytes ++ preamble.descriptor :: (preamble.window ++ preamble.dictionary ++ preamble.size)

/-- The size that the header declares, if it has a field for one. -/
def declared? (preamble : Preamble) : Option Nat :=
  if sizeBytes preamble.descriptor = 0 then none
  else some (leastSize preamble.descriptor + LittleEndian.ofBytes preamble.size)

/-- The same header with this size in its field, or as much of it as the field takes. -/
def declaring (preamble : Preamble) (size : Nat) : Preamble where
  descriptor := preamble.descriptor
  window := preamble.window
  dictionary := preamble.dictionary
  size := LittleEndian.toBytes (sizeBytes preamble.descriptor)
    (size - leastSize preamble.descriptor)
  reserved := preamble.reserved
  length_window := preamble.length_window
  length_dictionary := preamble.length_dictionary
  length_size := LittleEndian.length_toBytes _ _

/-- The sizes that the field of the header has a number for. -/
def Holds (preamble : Preamble) (size : Nat) : Prop :=
  sizeBytes preamble.descriptor ≠ 0 ∧ leastSize preamble.descriptor ≤ size ∧
    size < leastSize preamble.descriptor + LittleEndian.range (sizeBytes preamble.descriptor)

/-- A header can be made to declare just the sizes that its field holds. -/
theorem declared?_declaring (preamble : Preamble) (size : Nat) :
    (preamble.declaring size).declared? = some size ↔ preamble.Holds size := by
  have number : LittleEndian.ofBytes (preamble.declaring size).size
      = (size - leastSize preamble.descriptor)
        % LittleEndian.range (sizeBytes preamble.descriptor) :=
    LittleEndian.ofBytes_toBytes _ _
  have positive : 0 < LittleEndian.range (sizeBytes preamble.descriptor) := by
    have small := LittleEndian.ofBytes_lt preamble.size
    rw [preamble.length_size] at small
    omega
  rw [declared?, Option.ite_none_left_eq_some, Option.some_inj, number, Holds]
  change ¬ sizeBytes preamble.descriptor = 0
    ∧ leastSize preamble.descriptor + _ = size ↔ _
  refine and_congr_right fun _ => ⟨fun same => ?_, fun ⟨least, most⟩ => ?_⟩
  · have rest := Nat.mod_lt (size - leastSize preamble.descriptor) positive
    omega
  · rw [Nat.mod_eq_of_lt (by omega)]
    omega

end Preamble

/-- The fields of a descriptor are its bits. -/
theorem Descriptor.ofByte_bits (byte : UInt8) :
    ((ofByte byte).reserved = false ↔ byte &&& 0x08 = 0) ∧
      (ofByte byte).windowWidth = (if byte &&& 0x20 = 0 then 1 else 0) ∧
      (ofByte byte).dictionaryWidth = dictionaryBytes byte ∧
      (ofByte byte).sizeWidth = sizeBytes byte ∧
      (ofByte byte).sizeBias = leastSize byte := by
  have all : ∀ value : Fin 256,
      ((ofByte (.ofFin value)).reserved = false ↔ UInt8.ofFin value &&& 0x08 = 0) ∧
        (ofByte (.ofFin value)).windowWidth = (if UInt8.ofFin value &&& 0x20 = 0 then 1 else 0) ∧
        (ofByte (.ofFin value)).dictionaryWidth = dictionaryBytes (.ofFin value) ∧
        (ofByte (.ofFin value)).sizeWidth = sizeBytes (.ofFin value) ∧
        (ofByte (.ofFin value)).sizeBias = leastSize (.ofFin value) := by
    decide +kernel
  exact all byte.toFin

/-- Behind the magic number, the descriptor decides. -/
theorem contentSize_magicBytes (byte : UInt8) (rest : List UInt8) :
    contentSize (magicBytes ++ byte :: rest) =
      if byte &&& 0x08 = 0 then
        if sizeBytes byte = 0 then .error .unknownContentSize
        else
          match LittleEndian.read? (sizeBytes byte)
            (rest.drop ((if byte &&& 0x20 = 0 then 1 else 0) + dictionaryBytes byte)) with
          | none => .error .malformedFrame
          | some number => .ok (leastSize byte + number)
      else .error .malformedFrame := by
  rcases Descriptor.ofByte_bits byte with ⟨reserved, window, dictionary, width, bias⟩
  have length : magicBytes.length = 4 := rfl
  have magic : LittleEndian.read? 4 (magicBytes ++ byte :: rest) = some frameMagic :=
    LittleEndian.read?_append length _
  have notSkippable : isSkippable frameMagic = false := rfl
  have behind : (magicBytes ++ byte :: rest).drop 4 = byte :: rest := rfl
  rw [contentSize, magic]
  simp only [notSkippable, behind, window, dictionary, width, bias, ne_eq, not_true_eq_false,
    Bool.false_eq_true, if_false]
  by_cases clear : byte &&& 0x08 = 0
  · rw [if_pos clear, reserved.mpr clear, if_neg Bool.false_ne_true]
    generalize LittleEndian.read? (sizeBytes byte) _ = found
    cases found with
    | none => rfl
    | some number => exact congrArg (ite _ _) (congrArg Except.ok (Nat.add_comm number _))
  · rw [if_neg clear, if_pos (by simpa using mt reserved.mp clear)]

/-- A size is found when the descriptor allows one and there are enough bytes for it. -/
theorem contentSize_magicBytes_eq_ok_iff {byte : UInt8} {rest : List UInt8} {size : Nat} :
    contentSize (magicBytes ++ byte :: rest) = .ok size ↔
      byte &&& 0x08 = 0 ∧ sizeBytes byte ≠ 0 ∧ ∃ number,
        LittleEndian.read? (sizeBytes byte)
            (rest.drop ((if byte &&& 0x20 = 0 then 1 else 0) + dictionaryBytes byte))
          = some number ∧
        leastSize byte + number = size := by
  rw [contentSize_magicBytes]
  by_cases reserved : byte &&& 0x08 = 0
  · by_cases sized : sizeBytes byte = 0
    · simp [reserved, sized]
    · rw [if_pos reserved, if_neg sized]
      cases LittleEndian.read? (sizeBytes byte) _ <;> simp [reserved, sized]
  · simp [reserved]

/-- No other bytes have a size. -/
theorem exists_magicBytes {source : List UInt8} {size : Nat}
    (found : contentSize source = .ok size) :
    ∃ byte rest, source = magicBytes ++ byte :: rest := by
  unfold contentSize at found
  split at found
  · cases found
  · rename_i magic read
    split at found
    · cases found
    · split at found
      · cases found
      · rename_i same
        rcases LittleEndian.read?_eq_some_iff.mp read with ⟨field, behind, rfl, width, number⟩
        have front : field = magicBytes := by
          rw [← LittleEndian.toBytes_ofBytes field, width, number, Decidable.not_not.mp same]
          rfl
        subst front
        cases behind with
        | nil => cases found
        | cons byte rest => exact ⟨byte, rest, rfl⟩

/-- The answer for a complete header is what the header declares, whatever stands behind
it. -/
theorem contentSize_bytes_append (preamble : Preamble) (rest : List UInt8) :
    contentSize (preamble.bytes ++ rest) =
      match preamble.declared? with
      | some size => .ok size
      | none => .error .unknownContentSize := by
  have shape : preamble.bytes ++ rest = magicBytes ++ preamble.descriptor ::
      ((preamble.window ++ preamble.dictionary) ++ (preamble.size ++ rest)) := by
    simp [Preamble.bytes]
  have front : (preamble.window ++ preamble.dictionary).length
      = (if preamble.descriptor &&& 0x20 = 0 then 1 else 0)
        + dictionaryBytes preamble.descriptor := by
    rw [List.length_append, preamble.length_window, preamble.length_dictionary]
  rw [shape, contentSize_magicBytes, if_pos preamble.reserved, List.drop_left' front,
    LittleEndian.read?_append preamble.length_size, Preamble.declared?]
  split <;> rfl

/-- A size is found in a complete header only. -/
theorem exists_preamble {source : List UInt8} {size : Nat}
    (found : contentSize source = .ok size) :
    ∃ (preamble : Preamble) (rest : List UInt8),
      source = preamble.bytes ++ rest ∧ preamble.declared? = some size := by
  rcases exists_magicBytes found with ⟨byte, after, rfl⟩
  rcases contentSize_magicBytes_eq_ok_iff.mp found with ⟨reserved, sized, number, read, same⟩
  rcases LittleEndian.read?_eq_some_iff.mp read with ⟨field, rest, split, width, rfl⟩
  generalize front : (if byte &&& 0x20 = 0 then 1 else 0) = windowBytes at split
  -- The field is not empty, so the fields in front of it are complete.
  have long : windowBytes + dictionaryBytes byte ≤ after.length := by
    have lengths := congrArg List.length split
    rw [List.length_drop, List.length_append] at lengths
    omega
  refine ⟨{
    descriptor := byte
    window := after.take windowBytes
    dictionary := (after.drop windowBytes).take (dictionaryBytes byte)
    size := field
    reserved := reserved
    length_window := by rw [List.length_take, front]; omega
    length_dictionary := by rw [List.length_take, List.length_drop]; omega
    length_size := width }, rest, ?_, ?_⟩
  · have parts : after = after.take windowBytes
        ++ ((after.drop windowBytes).take (dictionaryBytes byte) ++ (field ++ rest)) := by
      rw [← split, ← List.drop_drop, List.take_append_drop, List.take_append_drop]
    simp only [Preamble.bytes, List.append_assoc, List.cons_append]
    rw [← parts]
  · rw [Preamble.declared?, if_neg sized]
    exact congrArg some same

/-- The driver finds a size exactly where a complete header declares it.  A header of any
layout can declare any size that its field holds, and nothing that stands behind a header
changes the answer. -/
theorem reads_sizes :
    (∀ (source : List UInt8) (size : Nat), contentSize source = .ok size ↔
      ∃ (preamble : Preamble) (rest : List UInt8),
        source = preamble.bytes ++ rest ∧ preamble.declared? = some size) ∧
    (∀ (preamble : Preamble) (size : Nat) (rest : List UInt8),
      contentSize ((preamble.declaring size).bytes ++ rest) = .ok size ↔ preamble.Holds size) ∧
    ∀ (preamble : Preamble) (rest : List UInt8),
      contentSize (preamble.bytes ++ rest) = contentSize preamble.bytes := by
  refine ⟨fun source size => ⟨exists_preamble, ?_⟩, fun preamble size rest => ?_,
    fun preamble rest => ?_⟩
  · rintro ⟨preamble, rest, rfl, declared⟩
    rw [contentSize_bytes_append, declared]
  · rw [contentSize_bytes_append, ← Preamble.declared?_declaring]
    cases (preamble.declaring size).declared? <;> simp
  · have alone := contentSize_bytes_append preamble []
    rw [List.append_nil] at alone
    rw [contentSize_bytes_append, alone]

example : contentSize (magicBytes ++ 0xE0 :: List.replicate 8 0xFF) = .ok (2 ^ 64 - 1) :=
  rfl

/-! ## Headers that are cut off -/

/-- Without a descriptor there is no header. -/
theorem contentSize_of_prefix_magicBytes {front : List UInt8} (cut : front <+: magicBytes) :
    contentSize front = .error .malformedFrame := by
  have all : ∀ part ∈ magicBytes.inits, contentSize part = .error .malformedFrame := by
    decide
  exact all front ((List.mem_inits _ _).mpr cut)

/-- What is left of a header behind its descriptor is shorter than its fields. -/
theorem Preamble.exists_fields {preamble : Preamble} {front : List UInt8}
    (cut : front <+: preamble.bytes) (short : front ≠ preamble.bytes)
    (described : magicBytes.length < front.length) :
    ∃ fields, front = magicBytes ++ preamble.descriptor :: fields ∧
      fields.length < (if preamble.descriptor &&& 0x20 = 0 then 1 else 0)
        + dictionaryBytes preamble.descriptor + sizeBytes preamble.descriptor := by
  have less : front.length < preamble.bytes.length :=
    Nat.lt_of_le_of_ne cut.length_le fun same => short (cut.eq_of_length same)
  rcases cut with ⟨rest, whole⟩
  rcases List.append_eq_append_iff.mp whole with ⟨missing, early, _⟩ | ⟨behind, rfl, tail⟩
  · have lengths := congrArg List.length early
    rw [List.length_append] at lengths
    omega
  · cases behind with
    | nil => simp at described
    | cons byte fields =>
        rcases List.cons.inj tail with ⟨rfl, _⟩
        refine ⟨fields, rfl, ?_⟩
        simp only [bytes, List.length_append, List.length_cons, preamble.length_window,
          preamble.length_dictionary, preamble.length_size] at less
        omega

/-- A header that is cut off never has a size.  It is found to be malformed, unless its
descriptor is there and announces no size; then the size is reported as unknown, as if the
header were complete. -/
theorem refuses_cut_headers {preamble : Preamble} {front : List UInt8}
    (cut : front <+: preamble.bytes) (short : front ≠ preamble.bytes) :
    contentSize front = .error
      (if preamble.declared? = none ∧ magicBytes.length < front.length then .unknownContentSize
      else .malformedFrame) := by
  have undeclared : preamble.declared? = none ↔ sizeBytes preamble.descriptor = 0 := by
    simp [Preamble.declared?]
  by_cases described : magicBytes.length < front.length
  · rcases preamble.exists_fields cut short described with ⟨fields, rfl, lacking⟩
    rw [contentSize_magicBytes, if_pos preamble.reserved]
    by_cases sized : sizeBytes preamble.descriptor = 0
    · rw [if_pos sized, if_pos ⟨undeclared.mpr sized, described⟩]
    · have missing : LittleEndian.read? (sizeBytes preamble.descriptor)
          (fields.drop ((if preamble.descriptor &&& 0x20 = 0 then 1 else 0)
            + dictionaryBytes preamble.descriptor)) = none := by
        rw [LittleEndian.read?_eq_none_iff, List.length_drop]
        omega
      rw [if_neg sized, missing, if_neg fun both => sized (undeclared.mp both.1)]
  · have early : front <+: magicBytes :=
      List.prefix_of_prefix_length_le cut (List.prefix_append _ _) (Nat.le_of_not_lt described)
    rw [contentSize_of_prefix_magicBytes early, if_neg fun both => described both.2]

/-- The longest header there is, without the last byte of its size. -/
theorem refuses_cut_headers_longest :
    let header : Preamble := ⟨0xC3, [0x50], [1, 2, 3, 4], List.replicate 8 0xFF, by decide, rfl,
      rfl, rfl⟩
    let front := header.bytes.take 17
    header.bytes.length = 18 ∧ front <+: header.bytes ∧ front ≠ header.bytes ∧
      contentSize front = .error .malformedFrame := by
  intro header front
  have cut : front <+: header.bytes := List.take_prefix 17 header.bytes
  have short : front ≠ header.bytes := by decide
  have declares : ¬ (header.declared? = none ∧ magicBytes.length < front.length) := by decide
  refine ⟨rfl, cut, short, ?_⟩
  rw [refuses_cut_headers cut short, if_neg declares]

/-- The window byte of a header without a size is missing, and is not missed. -/
theorem overlooks_missing_window :
    let header : Preamble := ⟨0x00, [0x50], [], [], by decide, rfl, rfl, rfl⟩
    let front := magicBytes ++ [0x00]
    front <+: header.bytes ∧ front ≠ header.bytes ∧
      contentSize front = .error .unknownContentSize := by
  decide

end Zstd

end RoccCodec
