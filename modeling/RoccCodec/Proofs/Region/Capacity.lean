import Mathlib.Algebra.BigOperators.Group.List.Basic
import Mathlib.Algebra.Ring.Nat
import RoccCodec.Benchmark
import RoccCodec.Proofs.Region.Windows

namespace RoccCodec

/-!
# The capacity of a region

A region is made large enough for the windows of a corpus and for one page.  The sizes of
the windows are all that counts (`Cursor.grants_carves`), so any order of the inputs
fits, behind any shift of up to a page.  The shifts of a benchmark stay below a page.
-/

namespace Region

theorem le_sizeLimit_of_check {length : Nat} (checked : check length = .ok ()) :
    length ≤ sizeLimit := by
  unfold check at checked
  split at checked
  · cases checked
  · split at checked
    · assumption
    · cases checked

/-- The windows of a corpus are summed up if the sum has 64 bits; then no sum on the way to
it has more. -/
theorem sum_eq_ok_iff {lengths : List Nat} {start sum : Nat} (small : start < Length.limit) :
    (lengths.foldlM (fun total length => do Length.add total (← paddedLength length)) start =
        (.ok sum : Except Overflow Nat)) ↔
      sum = start + (lengths.map padded).sum ∧ sum < Length.limit := by
  induction lengths generalizing start with
  | nil =>
      simp only [List.foldlM_nil, List.map_nil, List.sum_nil, Nat.add_zero]
      constructor
      · rintro ⟨⟩
        exact ⟨rfl, small⟩
      · rintro ⟨rfl, _⟩
        rfl
  | cons length rest hypothesis =>
      rw [List.foldlM_cons, List.map_cons, List.sum_cons, ← Nat.add_assoc]
      simp only [bind_eq_ok_iff, paddedLength_eq_ok_iff, Length.add_eq_ok_iff]
      constructor
      · rintro ⟨next, ⟨_, ⟨rfl, _⟩, rfl, fits⟩, found⟩
        exact (hypothesis fits).mp found
      · rintro ⟨rfl, whole⟩
        have fits : start + padded length < Length.limit := by omega
        have window : padded length < Length.limit := by omega
        exact ⟨_, ⟨_, ⟨rfl, window⟩, rfl, fits⟩, (hypothesis fits).mpr ⟨rfl, whole⟩⟩

/-- A capacity is computed if it has 64 bits. -/
theorem capacity_eq_ok_iff {lengths : List Nat} {total : Nat} :
    capacity lengths = .ok total ↔
      total = (lengths.map padded).sum + pageSize ∧ total < Length.limit := by
  have empty : 0 < Length.limit := by decide
  unfold capacity
  simp only [bind_eq_ok_iff, Length.add_eq_ok_iff]
  constructor
  · rintro ⟨sum, found, rfl, fits⟩
    rcases (sum_eq_ok_iff empty).mp found with ⟨rfl, _⟩
    rw [Nat.zero_add] at fits ⊢
    exact ⟨rfl, fits⟩
  · rintro ⟨rfl, fits⟩
    refine ⟨(lengths.map padded).sum, (sum_eq_ok_iff empty).mpr ⟨?_, ?_⟩, rfl, fits⟩
    · rw [Nat.zero_add]
    · omega

theorem capacity_eq_sum {rooms : List Nat} (fits : (rooms.map padded).sum + 4096 < Length.limit) :
    capacity rooms = .ok ((rooms.map padded).sum + 4096) :=
  capacity_eq_ok_iff.mpr ⟨rfl, fits⟩

end Region

namespace Cursor

/-- Every one of these calls returns and gets the bytes that it asks for. -/
def Grants (cursor : Cursor) (calls : List Call) : Prop :=
  ∃ log last, Runs cursor log last ∧ log.map Entry.call = calls ∧
    ∀ entry ∈ log, ∃ size, entry.call.size = .ok size ∧
      entry.answer = entry.call.granted entry.found.rest size

variable {cursor : Cursor}

theorem grants_cons {call : Call} {size : Nat} {calls : List Call} (asked : call.size = .ok size)
    (room : size ≤ cursor.remaining)
    (rest : (cursor.advance size).Grants calls) : cursor.Grants (call :: calls) := by
  rcases rest with ⟨log, last, runs, rfl, kept⟩
  have replied : cursor.reply call =
      (.ok (call.granted cursor.rest size), cursor.advance size) := by
    rw [reply_eq, asked]
    exact if_pos room
  exact ⟨_, last, .call replied runs, rfl, List.forall_mem_cons.mpr ⟨⟨size, asked, rfl⟩, kept⟩⟩

/-- Windows fit if the sum of their sizes does. -/
theorem grants_carves {lengths : List Nat} (held : cursor.remaining < Length.limit)
    (room : (lengths.map Region.padded).sum ≤ cursor.remaining) :
    cursor.Grants (lengths.map .carve) := by
  induction lengths generalizing cursor with
  | nil => exact ⟨[], cursor, .done, rfl, by simp⟩
  | cons length rest hypothesis =>
      rw [List.map_cons, List.sum_cons] at room
      have window : Region.padded length ≤ cursor.remaining := by omega
      refine grants_cons (Region.paddedLength_eq_padded (window.trans_lt held)) window
        (hypothesis ?_ ?_)
      · rw [remaining_advance]
        omega
      · rw [remaining_advance]
        omega

end Cursor

/-- Before the end of a page, there is room for one more granule behind a shift. -/
theorem Benchmark.shift_le (number : Nat) : shift number + 32 ≤ 4096 := by
  change number % 128 * 32 + 32 ≤ 4096
  omega

/-- A region that is allocated has the length that was asked for. -/
theorem Facade.toNat_length_of_allocateRegion {υ : Type} {capacity : Nat}
    {machine after : Machine υ} {region : Buffer}
    (allocated : allocateRegion capacity machine = (.ok region, after)) :
    region.length.toNat = capacity := by
  unfold allocateRegion at allocated
  cases checked : Region.check capacity with
  | error fault =>
      rw [checked] at allocated
      cases allocated
  | ok granted =>
      rw [checked] at allocated
      cases allocated
      have small := Region.le_sizeLimit_of_check checked
      exact UInt64.toNat_ofNat_of_lt' (small.trans_lt (by decide))

/-- A region with the capacity of some payloads has windows for all of them in any order,
behind any bytes that are skipped up to a page, and so behind the shift of any point of a
benchmark. -/
theorem Region.capacity_suffices {υ : Type} {lengths order : List Nat} {total : Nat}
    {machine after : Machine υ} {region : Buffer} (computed : capacity lengths = .ok total)
    (allocated : Facade.allocateRegion total machine = (.ok region, after))
    (same : order.Perm lengths) :
    region.length.toNat = total ∧
    (∀ skipped ≤ pageSize, (Cursor.start region.length.toNat).Grants
      (.skip skipped :: order.map .carve)) ∧
    ∀ number, (Cursor.start region.length.toNat).Grants
      (.skip (Benchmark.shift number) :: order.map .carve) := by
  rcases capacity_eq_ok_iff.mp computed with ⟨rfl, fits⟩
  have length := Facade.toNat_length_of_allocateRegion allocated
  have sum : (order.map padded).sum = (lengths.map padded).sum := (same.map padded).sum_eq
  have behind : ∀ skipped ≤ pageSize, (Cursor.start region.length.toNat).Grants
      (.skip skipped :: order.map .carve) := by
    intro skipped small
    rw [length]
    apply Cursor.grants_cons rfl
    · exact small.trans (Nat.le_add_left _ _)
    · apply Cursor.grants_carves
      · exact (Nat.sub_le _ _).trans_lt fits
      · rw [Cursor.remaining_advance, Cursor.remaining_start]
        omega
  refine ⟨length, behind, fun number => behind _ ?_⟩
  exact (Nat.le_add_right _ _).trans (Benchmark.shift_le number)

/-- Three payloads in another order, one of them empty and one that fills its granule. -/
theorem Region.capacity_suffices_permuted :
    let machine : Machine Absent := .start ⟨.skip⟩
    ∃ region after, capacity [5, 0, 32] = .ok 4224 ∧
      Facade.allocateRegion 4224 machine = (.ok region, after) ∧
      [32, 5, 0].Perm [5, 0, 32] ∧
      (∀ skipped ≤ pageSize, (Cursor.start region.length.toNat).Grants
        [.skip skipped, .carve 32, .carve 5, .carve 0]) ∧
      ∀ number, (Cursor.start region.length.toNat).Grants
        [.skip (Benchmark.shift number), .carve 32, .carve 5, .carve 0] := by
  intro machine
  have computed : capacity [5, 0, 32] = .ok 4224 := by decide
  have same : [32, 5, 0].Perm [5, 0, 32] := by decide
  have allocated : Facade.allocateRegion 4224 machine =
      (.ok ⟨(machine.allocate 4224).1, 4224⟩, (machine.allocate 4224).2) := rfl
  rcases capacity_suffices computed allocated same with ⟨_, behind, shifted⟩
  exact ⟨_, _, computed, allocated, same, behind, shifted⟩

end RoccCodec
