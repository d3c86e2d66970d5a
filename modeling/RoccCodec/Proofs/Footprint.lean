import RoccCodec.Buffer
import RoccCodec.Memory

namespace RoccCodec

/-!
# Who may touch which memory

Buffers are compared by the addresses they cover.  A request works on a few
buffers of its own that are apart from each other, and two memories that agree
at the addresses of these buffers cannot be told apart by it.
-/

namespace Buffer

/-- The address is one of the buffer. -/
def Covers (buffer : Buffer) (address : Nat) : Prop :=
  buffer.address.toNat ≤ address ∧ address < buffer.address.toNat + buffer.length.toNat

instance (buffer : Buffer) (address : Nat) : Decidable (buffer.Covers address) :=
  inferInstanceAs (Decidable (_ ∧ _))

/-- The eight bytes of a word. -/
def ofWord (word : UInt64) : Buffer := ⟨word, 8⟩

/-- No address belongs to both buffers. -/
def Apart (first second : Buffer) : Prop :=
  ∀ address, first.Covers address → ¬ second.Covers address

theorem apart_of_le {first second : Buffer}
    (before : first.address.toNat + first.length.toNat ≤ second.address.toNat) :
    first.Apart second := by
  intro address inFirst inSecond
  have below := inFirst.2
  have above := inSecond.1
  omega

/-- Buffers that lie one behind the other. -/
theorem pairwise_apart {buffers : List Buffer}
    (ordered : buffers.Pairwise fun first second =>
      first.address.toNat + first.length.toNat ≤ second.address.toNat) :
    buffers.Pairwise Apart :=
  ordered.imp apart_of_le

theorem Apart.symm {first second : Buffer} (apart : first.Apart second) : second.Apart first :=
  fun address inSecond inFirst => apart address inFirst inSecond

/-- The check of a driver finds nothing wrong with buffers that are apart. -/
theorem Apart.overlaps_eq_false {first second : Buffer} (apart : first.Apart second) :
    first.overlaps second = false := by
  cases meet : first.overlaps second with
  | false => rfl
  | true =>
      simp only [overlaps, Bool.and_eq_true, decide_eq_true_eq, bne_iff_ne, ne_eq] at meet
      rcases meet with ⟨⟨⟨fullFirst, fullSecond⟩, firstBefore⟩, secondBefore⟩
      unfold stop at firstBefore secondBefore
      have someFirst : first.length.toNat ≠ 0 := fun empty => fullFirst (UInt64.toNat_inj.mp empty)
      have someSecond : second.length.toNat ≠ 0 :=
        fun empty => fullSecond (UInt64.toNat_inj.mp empty)
      exfalso
      -- Both buffers cover the later one of their first addresses.
      apply apart (max first.address.toNat second.address.toNat)
      · constructor <;> omega
      · constructor <;> omega

end Buffer

namespace Memory

variable {own : Nat → Prop} {first second third : Memory}

/-- The same bytes at these addresses. -/
def Agree (own : Nat → Prop) (first second : Memory) : Prop :=
  ∀ address, own address → first.byte address = second.byte address

theorem Agree.refl (own : Nat → Prop) (memory : Memory) : Agree own memory memory :=
  fun _ _ => rfl

theorem Agree.trans (left : Agree own first second) (right : Agree own second third) :
    Agree own first third :=
  fun address owned => (left address owned).trans (right address owned)

theorem Agree.read (same : Agree own first second) {buffer : Buffer} {length : Nat}
    (owned : ∀ address, buffer.Covers address → own address)
    (fits : length ≤ buffer.length.toNat) :
    first.read buffer.address.toNat length = second.read buffer.address.toNat length := by
  apply read_congr
  intro offset small
  apply same
  apply owned
  constructor <;> omega

theorem Agree.load (same : Agree own first second) {word : UInt64}
    (owned : ∀ address, (Buffer.ofWord word).Covers address → own address) :
    first.load word = second.load word := by
  have bytes := same.read owned (Nat.le_refl 8)
  exact congrArg (fun read => UInt64.ofNat (LittleEndian.ofBytes read)) bytes

/-- A write within a buffer is not seen outside of it. -/
theorem agree_write (memory : Memory) {buffer : Buffer} {bytes : List UInt8}
    (fits : bytes.length ≤ buffer.length.toNat)
    (foreign : ∀ address, own address → ¬ buffer.Covers address) :
    Agree own (memory.write buffer.address.toNat bytes) memory := by
  intro address owned
  have outside := foreign address owned
  by_cases before : address < buffer.address.toNat
  · exact byte_write_of_lt before
  · apply byte_write_of_le
    unfold Buffer.Covers at outside
    omega

theorem agree_store (memory : Memory) {word : UInt64}
    (foreign : ∀ address, own address → ¬ (Buffer.ofWord word).Covers address) (value : UInt64) :
    Agree own (memory.store word value) memory := by
  apply @agree_write own memory (Buffer.ofWord word)
  · rw [LittleEndian.length_toBytes]
    exact Nat.le_refl 8
  · exact foreign

end Memory

end RoccCodec
