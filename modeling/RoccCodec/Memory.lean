import RoccCodec.LittleEndian

namespace RoccCodec

/-!
# Memory shared by host and units

Memory is a total map from addresses to bytes; what was never written is zero.
It is kept as a list of patches, the newest first, and writing drops the patches
that the new one hides entirely.
-/

/-- A run of written bytes. -/
structure Patch where
  start : Nat
  bytes : Array UInt8

namespace Patch

def stop (patch : Patch) : Nat := patch.start + patch.bytes.size

/-- The byte of the patch at an address it covers. -/
def byte? (patch : Patch) (address : Nat) : Option UInt8 :=
  if patch.start ≤ address then patch.bytes[address - patch.start]? else none

/-- Every address of the first patch belongs to the second. -/
def hiddenBy (patch other : Patch) : Bool :=
  decide (other.start ≤ patch.start) && decide (patch.stop ≤ other.stop)

/-- The patch has a byte in the given run of addresses. -/
def meets (patch : Patch) (start length : Nat) : Bool :=
  decide (patch.start < start + length) && decide (start < patch.stop)

theorem byte?_eq_none_iff {patch : Patch} {address : Nat} :
    patch.byte? address = none ↔ address < patch.start ∨ patch.stop ≤ address := by
  unfold byte? stop
  split
  · rw [Array.getElem?_eq_none_iff]
    omega
  · simp only [true_iff]
    omega

theorem byte?_eq_none_of_hiddenBy {patch other : Patch} {address : Nat}
    (hidden : patch.hiddenBy other = true) (outside : other.byte? address = none) :
    patch.byte? address = none := by
  simp only [hiddenBy, Bool.and_eq_true, decide_eq_true_eq] at hidden
  rw [byte?_eq_none_iff] at outside ⊢
  omega

end Patch

/-- The contents of the address space. -/
structure Memory where
  patches : List Patch

namespace Memory

def blank : Memory := ⟨[]⟩

def byte (memory : Memory) (address : Nat) : UInt8 :=
  (memory.patches.findSome? fun patch => patch.byte? address).getD 0

/-- Replace the bytes from an address on. -/
def write (memory : Memory) (address : Nat) (bytes : List UInt8) : Memory :=
  match bytes with
  | [] => memory
  | bytes =>
    let patch : Patch := ⟨address, bytes.toArray⟩
    ⟨patch :: memory.patches.filter fun older => !older.hiddenBy patch⟩

def read (memory : Memory) (address length : Nat) : List UInt8 :=
  let relevant : Memory :=
    ⟨memory.patches.filter fun patch => patch.meets address length⟩
  (List.range length).map fun offset => relevant.byte (address + offset)

private theorem findSome?_filter_of_none {α β : Type} {keep : α → Bool} {value : α → Option β}
    {entries : List α} (skipped : ∀ entry ∈ entries, keep entry = false → value entry = none) :
    (entries.filter keep).findSome? value = entries.findSome? value := by
  induction entries with
  | nil => rfl
  | cons entry rest hypothesis =>
    have tail := hypothesis fun other member => skipped other (List.mem_cons_of_mem _ member)
    cases kept : keep entry with
    | true => simp [kept, List.findSome?_cons, tail]
    | false =>
      have absent := skipped entry List.mem_cons_self kept
      simp [kept, tail, absent]

/-- A write changes the bytes it covers and no other. -/
theorem byte_write (memory : Memory) (start address : Nat) (bytes : List UInt8) :
    (memory.write start bytes).byte address =
      if start ≤ address then (bytes[address - start]?).getD (memory.byte address)
      else memory.byte address := by
  cases bytes with
  | nil => simp [write]
  | cons first rest =>
    simp only [write, byte, List.findSome?_cons]
    generalize hidden : (⟨start, (first :: rest).toArray⟩ : Patch) = patch
    have covers : patch.byte? address =
        if start ≤ address then (first :: rest)[address - start]? else none := by
      subst hidden
      simp [Patch.byte?]
    cases found : patch.byte? address with
    | some value =>
      rw [found] at covers
      split at covers
      · rename_i after
        rw [if_pos after, ← covers]
        rfl
      · simp at covers
    | none =>
      rw [found] at covers
      rw [findSome?_filter_of_none]
      · split at covers
        · rename_i after
          rw [if_pos after, ← covers]
          rfl
        · rename_i before
          rw [if_neg before]
      · intro older _ dropped
        simp only [Bool.not_eq_false'] at dropped
        exact Patch.byte?_eq_none_of_hiddenBy dropped found

theorem byte_write_of_lt {memory : Memory} {start address : Nat} {bytes : List UInt8}
    (before : address < start) : (memory.write start bytes).byte address = memory.byte address := by
  rw [byte_write, if_neg (by omega)]

theorem byte_write_of_le {memory : Memory} {start address : Nat} {bytes : List UInt8}
    (behind : start + bytes.length ≤ address) :
    (memory.write start bytes).byte address = memory.byte address := by
  rw [byte_write]
  split
  · rw [List.getElem?_eq_none (by omega)]
    rfl
  · rfl

@[simp] theorem length_read (memory : Memory) (address length : Nat) :
    (memory.read address length).length = length := by
  simp [read]

theorem getElem_read (memory : Memory) (address length offset : Nat)
    (inside : offset < (memory.read address length).length) :
    (memory.read address length)[offset] = memory.byte (address + offset) := by
  have small : offset < length := by simpa using inside
  simp only [read, List.getElem_map, List.getElem_range, byte]
  rw [findSome?_filter_of_none]
  intro patch _ apart
  simp only [Patch.meets, Bool.and_eq_false_iff, decide_eq_false_iff_not, Nat.not_lt] at apart
  rw [Patch.byte?_eq_none_iff]
  omega

/-- Two memories with equal bytes in a run of addresses read the same there. -/
theorem read_congr {first second : Memory} {address length : Nat}
    (same : ∀ offset < length, first.byte (address + offset) = second.byte (address + offset)) :
    first.read address length = second.read address length := by
  apply List.ext_getElem
  · simp
  · intro offset inside _
    rw [getElem_read, getElem_read]
    exact same offset (by simpa using inside)

/-- What was just written is read back. -/
theorem read_write (memory : Memory) (address : Nat) (bytes : List UInt8) :
    (memory.write address bytes).read address bytes.length = bytes := by
  apply List.ext_getElem
  · simp
  · intro offset inside within
    rw [getElem_read, byte_write, if_pos (by omega)]
    simp [within]

/-- The 64-bit word at an address, lowest byte first. -/
def load (memory : Memory) (address : UInt64) : UInt64 :=
  UInt64.ofNat (LittleEndian.ofBytes (memory.read address.toNat 8))

def store (memory : Memory) (address word : UInt64) : Memory :=
  memory.write address.toNat (LittleEndian.toBytes 8 word.toNat)

@[simp] theorem load_store (memory : Memory) (address word : UInt64) :
    (memory.store address word).load address = word := by
  have field := read_write memory address.toNat (LittleEndian.toBytes 8 word.toNat)
  rw [LittleEndian.length_toBytes] at field
  have small : word.toNat < LittleEndian.range 8 := word.toNat_lt
  unfold load store
  rw [field, LittleEndian.ofBytes_toBytes, Nat.mod_eq_of_lt small, UInt64.ofNat_toNat]

end Memory

end RoccCodec
