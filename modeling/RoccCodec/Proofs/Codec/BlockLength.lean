import Mathlib.Data.Nat.Digits.Lemmas
import RoccCodec.Snappy

namespace RoccCodec

/-!
# The length in front of a block

A number is spelled in groups of seven bits, lowest first: every byte but the last has
its highest bit set.  A spelling may be longer than it has to be, with zero groups at
its end (`Varint.Spelling`).  `Varint.read?_bytes_append` reads it from the front of a
source if it has few enough groups, and a number is read from nothing else
(`Varint.exists_spelling`).

The length of a block has up to five groups, which hold 35 bits, and must not need more
than 32.  `Snappy.reads_lengths` says which lengths the driver takes from a block.
-/

namespace Varint

/-- A number in groups of seven bits. -/
inductive Spelling where
  | last (byte : UInt8) (ended : byte &&& 0x80 = 0)
  | next (byte : UInt8) (continued : byte &&& 0x80 = 0x80) (rest : Spelling)

namespace Spelling

def bytes : Spelling → List UInt8
  | last byte _ => [byte]
  | next byte _ rest => byte :: rest.bytes

/-- The number that is spelled: its digits to base 128 are the low bits of the bytes. -/
def value (spelling : Spelling) : Nat :=
  Nat.ofDigits 128 (spelling.bytes.map fun byte => (byte &&& 0x7F).toNat)

/-- No spelling of the same number has fewer groups. -/
def Shortest (spelling : Spelling) : Prop :=
  ∀ other : Spelling, other.value = spelling.value → spelling.bytes.length ≤ other.bytes.length

end Spelling

/-- The highest bit of a byte and the other seven, in numbers. -/
theorem group_bits (byte : UInt8) :
    (byte &&& 0x80 = 0 ↔ byte.toNat < 128) ∧ (byte &&& 0x80 = 0x80 ↔ 128 ≤ byte.toNat) ∧
      (byte &&& 0x7F).toNat = byte.toNat % 128 := by
  have all : ∀ value : Fin 256,
      (UInt8.ofFin value &&& 0x80 = 0 ↔ (UInt8.ofFin value).toNat < 128) ∧
        (UInt8.ofFin value &&& 0x80 = 0x80 ↔ 128 ≤ (UInt8.ofFin value).toNat) ∧
        (UInt8.ofFin value &&& 0x7F).toNat = (UInt8.ofFin value).toNat % 128 := by
    decide +kernel
  exact all byte.toFin

namespace Spelling

theorem value_last (byte : UInt8) (ended : byte &&& 0x80 = 0) :
    (last byte ended).value = byte.toNat := by
  have small := (group_bits byte).1.mp ended
  simp only [value, bytes, List.map_cons, List.map_nil, Nat.ofDigits_singleton,
    (group_bits byte).2.2, Nat.mod_eq_of_lt small]

theorem value_next (byte : UInt8) (continued : byte &&& 0x80 = 0x80) (rest : Spelling) :
    (next byte continued rest).value = byte.toNat - 128 + 128 * rest.value := by
  have large := (group_bits byte).2.1.mp continued
  have small := byte.toNat_lt
  simp only [value, bytes, List.map_cons, Nat.ofDigits_cons, (group_bits byte).2.2]
  omega

theorem value_lt (spelling : Spelling) : spelling.value < 128 ^ spelling.bytes.length := by
  have digits : ∀ digit ∈ spelling.bytes.map fun byte => (byte &&& 0x7F).toNat, digit < 128 := by
    intro digit member
    rcases List.mem_map.mp member with ⟨byte, _, rfl⟩
    rw [(group_bits byte).2.2]
    exact Nat.mod_lt _ (by decide)
  have bounded := Nat.ofDigits_lt_base_pow_length (by decide) digits
  rwa [List.length_map] at bounded

end Spelling

/-- A spelling with few enough groups is read up to its last one. -/
theorem read?_bytes_append (spelling : Spelling) (groups : Nat) (rest : List UInt8) :
    read? groups (spelling.bytes ++ rest) =
      if spelling.bytes.length ≤ groups then some (spelling.value, rest) else none := by
  induction spelling generalizing groups with
  | last byte ended =>
      have small := (group_bits byte).1.mp ended
      cases groups with
      | zero => rfl
      | succ groups => simp [Spelling.bytes, Spelling.value_last, read?, small]
  | next byte continued tail hypothesis =>
      have large := (group_bits byte).2.1.mp continued
      cases groups with
      | zero => rfl
      | succ groups =>
          simp only [Spelling.bytes, List.cons_append, List.length_cons, read?,
            if_neg (Nat.not_lt.mpr large), hypothesis, Nat.add_le_add_iff_right,
            Spelling.value_next]
          split <;> rfl

/-- What is read has been spelled. -/
theorem exists_spelling {groups value : Nat} {source rest : List UInt8}
    (found : read? groups source = some (value, rest)) :
    ∃ spelling : Spelling, source = spelling.bytes ++ rest := by
  induction groups generalizing source value with
  | zero => cases found
  | succ groups hypothesis =>
      cases source with
      | nil => cases found
      | cons byte tail =>
          rw [read?] at found
          split at found
          · rename_i small
            cases found
            exact ⟨.last byte ((group_bits byte).1.mpr small), rfl⟩
          · rename_i large
            rcases Option.map_eq_some_iff.mp found with ⟨⟨high, behind⟩, read, same⟩
            cases same
            rcases hypothesis read with ⟨spelling, rfl⟩
            exact ⟨.next byte ((group_bits byte).2.1.mpr (Nat.not_lt.mp large)) spelling, rfl⟩

theorem range_eq_pow (groups : Nat) : range groups = 128 ^ groups := by
  induction groups with
  | zero => rfl
  | succ groups hypothesis => rw [range, hypothesis, Nat.pow_succ']

/-- The written form of a number spells it. -/
theorem exists_written (value : Nat) :
    ∃ spelling : Spelling, spelling.bytes = write value ∧ spelling.value = value := by
  induction value using write.induct with
  | case1 value small =>
      have digit : (UInt8.ofNat value).toNat = value := by
        rw [UInt8.toNat_ofNat']
        omega
      refine ⟨.last (UInt8.ofNat value) ((group_bits _).1.mpr (by omega)), ?_, ?_⟩
      · rw [write, if_pos small]
        rfl
      · rw [Spelling.value_last, digit]
  | case2 value large hypothesis =>
      have digit : (UInt8.ofNat (value % 128 + 128)).toNat = value % 128 + 128 := by
        rw [UInt8.toNat_ofNat']
        omega
      rcases hypothesis with ⟨rest, written, same⟩
      refine ⟨.next (UInt8.ofNat (value % 128 + 128)) ((group_bits _).2.1.mpr (by omega)) rest,
        ?_, ?_⟩
      · rw [write, if_neg large, ← written]
        rfl
      · rw [Spelling.value_next, digit, same]
        omega

/-- No spelling of a number is shorter than its written form. -/
theorem length_write_le_length_bytes (spelling : Spelling) :
    (write spelling.value).length ≤ spelling.bytes.length := by
  have some : 0 < spelling.bytes.length := by
    cases spelling <;> exact Nat.succ_pos _
  apply length_write_le some
  rw [range_eq_pow]
  exact spelling.value_lt

theorem exists_shortest (value : Nat) :
    ∃ spelling : Spelling, spelling.bytes = write value ∧ spelling.value = value ∧
      spelling.Shortest := by
  rcases exists_written value with ⟨spelling, written, same⟩
  refine ⟨spelling, written, same, fun other equal => ?_⟩
  rw [written, ← same, ← equal]
  exact length_write_le_length_bytes other

end Varint

namespace Snappy

theorem declaredLength_bytes_append (spelling : Varint.Spelling) (rest : List UInt8) :
    declaredLength (spelling.bytes ++ rest) =
      if spelling.bytes.length ≤ lengthGroups ∧ spelling.value ≤ maxLength then .ok spelling.value
      else .error .malformedFrame := by
  rw [declaredLength, Varint.read?_bytes_append]
  by_cases few : spelling.bytes.length ≤ lengthGroups
  · simp only [few, true_and, if_true]
  · simp only [few, false_and, if_false]

/-- A source has a length if it starts with a spelling, and is malformed otherwise. -/
theorem exists_spelling_or_malformed (source : List UInt8) :
    (∃ (spelling : Varint.Spelling) (rest : List UInt8), source = spelling.bytes ++ rest) ∨
      declaredLength source = .error .malformedFrame := by
  cases read : Varint.read? lengthGroups source with
  | none => exact .inr (by rw [declaredLength, read])
  | some found =>
      rcases found with ⟨value, rest⟩
      rcases Varint.exists_spelling read with ⟨spelling, same⟩
      exact .inl ⟨spelling, rest, same⟩

/-- The driver takes the length that is spelled in front of a block if the spelling has up
to five groups and the length has up to 32 bits.  Any other source is malformed.  A length
of 32 bits is taken in its shortest spelling, and nothing that stands behind a spelling
changes the answer. -/
theorem reads_lengths :
    (∀ (source : List UInt8) (length : Nat), declaredLength source = .ok length ↔
      ∃ (spelling : Varint.Spelling) (rest : List UInt8), source = spelling.bytes ++ rest ∧
        spelling.bytes.length ≤ 5 ∧ spelling.value = length ∧ length ≤ 2 ^ 32 - 1) ∧
    (∀ source : List UInt8, (∃ length, declaredLength source = .ok length) ∨
      declaredLength source = .error .malformedFrame) ∧
    (∀ (length : Nat) (rest : List UInt8), ∃ spelling : Varint.Spelling,
      spelling.Shortest ∧ spelling.value = length ∧ spelling.bytes = Varint.write length ∧
        declaredLength (spelling.bytes ++ rest) =
          if length ≤ 2 ^ 32 - 1 then .ok length else .error .malformedFrame) ∧
    ∀ (spelling : Varint.Spelling) (rest : List UInt8),
      declaredLength (spelling.bytes ++ rest) = declaredLength spelling.bytes := by
  refine ⟨fun source length => ⟨fun found => ?_, ?_⟩, fun source => ?_, fun length rest => ?_,
    fun spelling rest => ?_⟩
  · rcases exists_spelling_or_malformed source with ⟨spelling, rest, rfl⟩ | malformed
    · rw [declaredLength_bytes_append] at found
      split at found
      · rename_i taken
        cases found
        exact ⟨spelling, rest, rfl, taken.1, rfl, taken.2⟩
      · cases found
    · rw [malformed] at found
      cases found
  · rintro ⟨spelling, rest, rfl, few, rfl, small⟩
    rw [declaredLength_bytes_append, if_pos ⟨few, small⟩]
  · rcases exists_spelling_or_malformed source with ⟨spelling, rest, rfl⟩ | malformed
    · rw [declaredLength_bytes_append]
      split
      · exact .inl ⟨_, rfl⟩
      · exact .inr rfl
    · exact .inr malformed
  · rcases Varint.exists_shortest length with ⟨spelling, written, same, shortest⟩
    refine ⟨spelling, shortest, same, written, ?_⟩
    rw [declaredLength_bytes_append, same]
    by_cases small : length ≤ 2 ^ 32 - 1
    · have few : spelling.bytes.length ≤ lengthGroups := by
        rw [written]
        apply Varint.length_write_le (by decide)
        rw [Varint.range_eq_pow]
        exact Nat.lt_of_le_of_lt small (by decide)
      rw [if_pos ⟨few, small⟩, if_pos small]
    · rw [if_neg fun both => small both.2, if_neg small]
  · have alone := declaredLength_bytes_append spelling []
    rw [List.append_nil] at alone
    rw [declaredLength_bytes_append, alone]

example : declaredLength [0x80, 0x80, 0x80, 0x80, 0x10] = .error .malformedFrame := by
  decide +kernel

end Snappy

end RoccCodec
