import RoccCodec.Device.Absent
import RoccCodec.Proofs.Footprint
import RoccCodec.Proofs.Submission

namespace RoccCodec

/-!
# Which overlaps a driver finds

The check of a driver compares where two buffers start and stop.  A buffer that
would stop behind the last address is taken to stop at it, so the byte at this
address is in no buffer as far as the check is concerned.  For all other bytes the
check is exact (`Buffer.overlaps_eq_true_iff`).  Two buffers that share any byte share
the later one of their first bytes, so what the check misses are the pairs of which
one starts with the last byte of the address space (`Buffer.MeetsLast`).
-/

/-- The last of the addresses that 64 bits can name. -/
def lastAddress : Nat := 0xFFFFFFFFFFFFFFFF

namespace Buffer

/-- Some byte belongs to both buffers, wherever they end. -/
def Meets (first second : Buffer) : Prop :=
  ∃ address, first.Covers address ∧ second.Covers address

/-- Both buffers have the last byte of the address space, and one of them starts with it. -/
structure MeetsLast (first second : Buffer) : Prop where
  covered : first.Covers lastAddress ∧ second.Covers lastAddress
  starts : first.address.toNat = lastAddress ∨ second.address.toNat = lastAddress

variable {first second : Buffer} {address : Nat}

theorem toNat_address_le (buffer : Buffer) : buffer.address.toNat ≤ lastAddress := by
  have least := buffer.address.toNat_lt
  unfold lastAddress
  omega

theorem length_ne_zero_iff {buffer : Buffer} : buffer.length ≠ 0 ↔ 0 < buffer.length.toNat := by
  rw [Nat.pos_iff_ne_zero, ne_eq, ne_eq, ← UInt64.toNat_inj]
  rfl

/-- Two buffers that have a byte in common have the later one of their first bytes in
common. -/
theorem Meets.covers_max (meets : first.Meets second) :
    first.Covers (max first.address.toNat second.address.toNat) ∧
      second.Covers (max first.address.toNat second.address.toNat) := by
  rcases meets with ⟨address, inFirst, inSecond⟩
  unfold Covers at inFirst inSecond ⊢
  omega

/-- The check finds the bytes that two buffers have in common before the last address,
and nothing else. -/
theorem overlaps_eq_true_iff :
    first.overlaps second = true ↔
      ∃ address < lastAddress, first.Covers address ∧ second.Covers address := by
  have compared : first.overlaps second = true ↔
      ((0 < first.length.toNat ∧ 0 < second.length.toNat) ∧
        first.address.toNat < min (second.address.toNat + second.length.toNat) lastAddress) ∧
        second.address.toNat < min (first.address.toNat + first.length.toNat) lastAddress := by
    simp only [overlaps, Bool.and_eq_true, bne_iff_ne, decide_eq_true_eq, length_ne_zero_iff]
    exact Iff.rfl
  rw [compared]
  constructor
  · rintro ⟨⟨filled, before⟩, after⟩
    refine ⟨max first.address.toNat second.address.toNat, by omega, ?_⟩
    constructor <;> constructor <;> omega
  · rintro ⟨address, small, inFirst, inSecond⟩
    unfold Covers at inFirst inSecond
    omega

/-- The check is wrong about two buffers exactly if they meet at the last address, where
one of them starts. -/
theorem overlaps_iff_meets_iff :
    (first.overlaps second = true ↔ first.Meets second) ↔ ¬ first.MeetsLast second := by
  constructor
  · intro right last
    rcases overlaps_eq_true_iff.mp (right.mpr ⟨lastAddress, last.covered⟩) with
      ⟨address, small, inFirst, inSecond⟩
    rcases last.starts with start | start
    · exact absurd (start.ge.trans inFirst.1) (Nat.not_le_of_lt small)
    · exact absurd (start.ge.trans inSecond.1) (Nat.not_le_of_lt small)
  · intro elsewhere
    constructor
    · intro found
      rcases overlaps_eq_true_iff.mp found with ⟨address, _, covered⟩
      exact ⟨address, covered⟩
    · intro meets
      have common := meets.covers_max
      have low := first.toNat_address_le
      have high := second.toNat_address_le
      refine overlaps_eq_true_iff.mpr ⟨_, Nat.lt_of_le_of_ne (by omega) ?_, common⟩
      intro last
      rw [last] at common
      exact elsewhere ⟨common, by omega⟩

end Buffer

namespace Channel

/-- What is found to overlap is refused, whatever else is wrong with the request. -/
theorem exists_refusal {channel : Channel} {request : Request}
    (found : request.source.overlaps request.destination = true) :
    ∃ fault, request.check channel = .error fault := by
  by_cases takes : channel.Takes request
  · refine ⟨.overlap, ?_⟩
    rw [check_of_takes takes, if_pos found]
  · exact ⟨_, check_of_not_takes takes⟩

/-- The check of two buffers does not depend on their order.  It finds a byte that
belongs to both of them, for all addresses and lengths and with no wrap-around, unless
they meet at the last address of the space, where one of them starts; then it finds
nothing.  Where it finds something, the request is refused, and neither a command has
been issued nor the completion word cleared. -/
theorem finds_overlaps (first second : Buffer) :
    first.overlaps second = second.overlaps first ∧
    ((first.overlaps second = true ↔ first.Meets second) ↔ ¬ first.MeetsLast second) ∧
    ∀ (υ : Type) [Accelerator υ] (channel : Channel) (auxiliary : Auxiliary)
      (level : Option Int32) (word : UInt64) (machine : Machine υ),
      first.Meets second → ¬ first.MeetsLast second →
      ∃ fault, channel.dispatch ⟨first, auxiliary, second, level⟩ word machine =
        (.error fault, machine) := by
  refine ⟨Buffer.overlaps_comm first second, Buffer.overlaps_iff_meets_iff, ?_⟩
  intro υ _ channel auxiliary level word machine meets elsewhere
  have found : first.overlaps second = true :=
    (Buffer.overlaps_iff_meets_iff.mpr elsewhere).mpr meets
  rcases @exists_refusal channel ⟨first, auxiliary, second, level⟩ found with ⟨fault, refused⟩
  refine ⟨fault, ?_⟩
  rw [dispatch, refused]

/-- Two buffers at the very end of the address space, one of which leaves it. -/
theorem finds_overlaps_at_end :
    let first : Buffer := ⟨0xFFFFFFFFFFFFFFF0, 16⟩
    let second : Buffer := ⟨0xFFFFFFFFFFFFFFFE, 64⟩
    let channel : Channel := ⟨.compressor, .snappyCompress, Build.compressorSnappyCompress, rfl⟩
    let machine : Machine (Traced Absent) := .start (.start ⟨.skip⟩)
    first.Meets second ∧ ¬ first.MeetsLast second ∧ first.overlaps second = true ∧
      ∃ fault, channel.dispatch ⟨first, .none, second, none⟩ 0x100 machine =
        (.error fault, machine) := by
  intro first second channel machine
  have meets : first.Meets second := ⟨0xFFFFFFFFFFFFFFFE, by decide⟩
  have elsewhere : ¬ first.MeetsLast second := fun last => by
    rcases last.starts with start | start <;> exact absurd start (by decide)
  rcases finds_overlaps first second with ⟨_, exact, refused⟩
  exact ⟨meets, elsewhere, (exact.mpr elsewhere).mpr meets,
    refused _ channel .none none 0x100 machine meets elsewhere⟩

/-- The last byte of the address space is compressed onto itself. -/
theorem sends_last_byte_twice :
    let last : Buffer := ⟨0xFFFFFFFFFFFFFFFF, 1⟩
    let channel : Channel := ⟨.compressor, .snappyCompress, Build.compressorSnappyCompress, rfl⟩
    last.Meets last ∧ last.overlaps last = false ∧
      ∃ sent, channel.dispatch ⟨last, .none, last, none⟩ 0x100
          (.start (Traced.start (Absent.mk .skip))) = (.ok (), sent) ∧
        sent.unit.commands = [.pair .custom2 6 0xFFFFFFFFFFFFFFFF 1,
          .pair .custom2 7 0xFFFFFFFFFFFFFFFF 0x100] := by
  refine ⟨⟨lastAddress, by decide⟩, by decide, _, rfl, rfl⟩

end Channel

end RoccCodec
