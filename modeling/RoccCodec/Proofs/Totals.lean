import Mathlib.Algebra.Order.BigOperators.Group.List
import Mathlib.Algebra.Order.Group.Nat
import Mathlib.Algebra.Ring.Nat
import Mathlib.Data.List.Induction
import Mathlib.Data.List.Nodup
import Mathlib.Order.Bounds.Basic
import RoccCodec.Fault
import RoccCodec.Totals

namespace RoccCodec

/-!
# Totals as a grouping of the records

Totals are built up record by record, and so is a grid.  What they come to does not depend
on that: a grid has one entry for each point that occurs, in ascending order, and the entry
is the sum over the records of the point, wherever they stand among the others.

A grid is looked at through `List.lookup`.  What `Grid.add` does to it is said point by
point (`Grid.Adds`), and an ordered grid is determined by what is looked up in it
(`Grid.ext_lookup`), so that permuted records lead to the same grid.  Sums are checked
against the 64-bit range at each step; `Totals.Fits` asks it of the final sums only, since
the sums on the way are not greater.
-/

/-- The last step of a fold. -/
theorem foldlM_append_singleton {ε α β : Type} {step : β → α → Except ε β} {start middle last : β}
    {items : List α} {item : α} (folded : items.foldlM step start = .ok middle)
    (stepped : step middle item = .ok last) :
    (items ++ [item]).foldlM step start = .ok last := by
  rw [List.foldlM_append, folded]
  exact bind_eq_ok_iff.mpr ⟨middle, rfl, bind_eq_ok_iff.mpr ⟨last, stepped, rfl⟩⟩

/-! ## Sums as a monoid -/

namespace Sums

attribute [ext] Sums

instance : Zero Sums := ⟨zero⟩

instance : Add Sums where
  add first second :=
    ⟨first.elapsed + second.elapsed, first.input + second.input, first.output + second.output⟩

@[simp] theorem elapsed_zero : (0 : Sums).elapsed = 0 := rfl
@[simp] theorem input_zero : (0 : Sums).input = 0 := rfl
@[simp] theorem output_zero : (0 : Sums).output = 0 := rfl

@[simp] theorem elapsed_add (first second : Sums) :
    (first + second).elapsed = first.elapsed + second.elapsed := rfl

@[simp] theorem input_add (first second : Sums) :
    (first + second).input = first.input + second.input := rfl

@[simp] theorem output_add (first second : Sums) :
    (first + second).output = first.output + second.output := rfl

instance : AddCommMonoid Sums where
  add_assoc first second third := by ext <;> simp [Nat.add_assoc]
  zero_add sums := by ext <;> simp
  add_zero sums := by ext <;> simp
  add_comm first second := by ext <;> simp [Nat.add_comm]
  nsmul := nsmulRec

/-- Every sum is a 64-bit number. -/
structure Fits (sums : Sums) : Prop where
  elapsed : sums.elapsed < Length.limit
  input : sums.input < Length.limit
  output : sums.output < Length.limit

theorem Fits.of_add {first second : Sums} (fits : (first + second).Fits) : first.Fits where
  elapsed := Nat.lt_of_le_of_lt (Nat.le_add_right _ _) fits.elapsed
  input := Nat.lt_of_le_of_lt (Nat.le_add_right _ _) fits.input
  output := Nat.lt_of_le_of_lt (Nat.le_add_right _ _) fits.output

end Sums

def Record.sums (record : Record) : Sums :=
  ⟨record.elapsed, record.inputLength, record.outputLength⟩

namespace Sums

/-- The sums over some records. -/
def total (records : List Record) : Sums := (records.map Record.sums).sum

@[simp] theorem total_append (first second : List Record) :
    total (first ++ second) = total first + total second := by
  simp [total]

@[simp] theorem total_singleton (record : Record) : total [record] = record.sums := by
  simp [total]

theorem total_perm {first second : List Record} (permuted : first.Perm second) :
    total first = total second :=
  (permuted.map _).sum_eq

theorem elapsed_total (records : List Record) :
    (total records).elapsed = (records.map Record.elapsed).sum := by
  induction records with
  | nil => rfl
  | cons record rest hypothesis =>
      rw [← List.singleton_append, total_append, elapsed_add, hypothesis, total_singleton]
      rfl

/-- A record is added as long as the sums stay in the range. -/
theorem add_of_fits {sums : Sums} {record : Record} (fits : (sums + record.sums).Fits) :
    sums.add record = .ok (sums + record.sums) :=
  bind_eq_ok_iff.mpr ⟨_, Length.add_of_lt fits.elapsed,
    bind_eq_ok_iff.mpr ⟨_, Length.add_of_lt fits.input,
      bind_eq_ok_iff.mpr ⟨_, Length.add_of_lt fits.output, rfl⟩⟩⟩

end Sums

namespace Point

/-- Points are compared by the history and then by the hash table, of which none is the least. -/
theorem precedes_iff_lt {first second : Point} :
    first.precedes second = true ↔ first.history < second.history ∨
      first.history = second.history ∧ first.hashTableLog2 < second.hashTableLog2 := by
  rcases first with ⟨history, table⟩
  rcases second with ⟨other, beside⟩
  rw [precedes_iff, UInt64.lt_iff_toNat_lt, ← UInt64.toNat_inj]
  cases table <;> cases beside <;>
    simp [rank, UInt64.lt_iff_toNat_lt]

/-- The records of a point. -/
def share (point : Point) (records : List Record) : List Record :=
  records.filter fun record => record.point = point

variable {point : Point} {records : List Record} {record : Record}

theorem share_append (first second : List Record) :
    point.share (first ++ second) = point.share first ++ point.share second :=
  List.filter_append first second

theorem share_singleton_of_eq (here : point = record.point) : point.share [record] = [record] := by
  simp [share, here]

theorem share_singleton_of_ne (elsewhere : point ≠ record.point) : point.share [record] = [] := by
  simp [share, elsewhere.symm]

theorem share_eq_nil_iff :
    point.share records = [] ↔ ¬ ∃ record ∈ records, record.point = point := by
  simp [share]

theorem share_perm (point : Point) {first second : List Record} (permuted : first.Perm second) :
    (point.share first).Perm (point.share second) :=
  permuted.filter _

end Point

namespace Grid

variable {grid next : Grid} {record : Record} {records : List Record}

def Ordered (grid : Grid) : Prop :=
  (grid.map Prod.fst).Pairwise fun first second => first.precedes second = true

/-- What a grid has for a point, or nothing. -/
def sumsAt (grid : Grid) (point : Point) : Sums := (grid.lookup point).getD 0

def total (grid : Grid) : Sums := (grid.map Prod.snd).sum

/-- The second grid is the first one with the record added to the sums of its point. -/
structure Adds (grid : Grid) (record : Record) (next : Grid) : Prop where
  ordered : next.Ordered
  lookup : ∀ point, next.lookup point =
    if point = record.point then some (grid.sumsAt point + record.sums) else grid.lookup point
  total : next.total = grid.total + record.sums

theorem mem_iff_lookup (ordered : grid.Ordered) {point : Point} {sums : Sums} :
    (point, sums) ∈ grid ↔ grid.lookup point = some sums := by
  rw [List.lookup_eq_some_iff]
  constructor
  · intro member
    rcases List.append_of_mem member with ⟨before, behind, rfl⟩
    refine ⟨before, behind, rfl, fun entry earlier => bne_iff_ne.mpr ?_⟩
    rintro rfl
    unfold Ordered at ordered
    rw [List.map_append, List.pairwise_append] at ordered
    have first := ordered.2.2 entry.1 (List.mem_map_of_mem earlier) entry.1 List.mem_cons_self
    rw [entry.1.not_precedes_self] at first
    cases first
  · rintro ⟨before, behind, rfl, _⟩
    exact List.mem_append_right _ List.mem_cons_self

theorem Ordered.nodup (ordered : grid.Ordered) : grid.Nodup := by
  refine List.Nodup.of_map Prod.fst (ordered.imp ?_)
  rintro first _ precedes rfl
  rw [first.not_precedes_self] at precedes
  cases precedes

/-- An ordered grid is determined by what is looked up in it. -/
theorem ext_lookup (ordered : grid.Ordered) (sorted : next.Ordered)
    (same : ∀ point, grid.lookup point = next.lookup point) : grid = next := by
  have members : ∀ entry, entry ∈ grid ↔ entry ∈ next := by
    intro entry
    rw [mem_iff_lookup ordered, mem_iff_lookup sorted, same]
  have permuted := (List.perm_ext_iff_of_nodup ordered.nodup sorted.nodup).mpr members
  refine List.Perm.eq_of_pairwise ?_ (List.pairwise_map.mp ordered) (List.pairwise_map.mp sorted)
    permuted
  intro first second _ _ forward backward
  have around := Point.precedes_trans forward backward
  rw [first.1.not_precedes_self] at around
  cases around

/-! ### Adding a record -/

theorem lookup_cons (entry : Point × Sums) (rest : Grid) (point : Point) :
    List.lookup point (entry :: rest) =
      if point = entry.1 then some entry.2 else rest.lookup point := by
  rw [List.lookup_cons]
  by_cases here : point = entry.1
  · rw [if_pos here, beq_iff_eq.mpr here]
  · rw [if_neg here, beq_eq_false_iff_ne.mpr here]

theorem ordered_cons {entry : Point × Sums} {rest : Grid} :
    Ordered (entry :: rest) ↔
      (∀ later ∈ rest, entry.1.precedes later.1 = true) ∧ Ordered rest := by
  unfold Ordered
  rw [List.map_cons, List.pairwise_cons, List.forall_mem_map]

theorem total_cons (entry : Point × Sums) (rest : Grid) :
    total (entry :: rest) = entry.2 + total rest :=
  List.sum_cons

/-- In front of all points of a grid there is nothing to be found. -/
theorem lookup_eq_none {point : Point} (first : ∀ entry ∈ grid, point.precedes entry.1 = true) :
    grid.lookup point = none := by
  refine List.lookup_eq_none_iff.mpr fun entry member => bne_iff_ne.mpr ?_
  rintro rfl
  have before := first entry member
  rw [entry.1.not_precedes_self] at before
  cases before

/-- The record goes to the first point of the grid. -/
theorem Adds.here {sums : Sums} {rest : Grid} (ordered : Ordered ((record.point, sums) :: rest)) :
    Adds ((record.point, sums) :: rest) record ((record.point, sums + record.sums) :: rest) where
  ordered := ordered_cons.mpr (ordered_cons.mp ordered)
  lookup := by
    intro point
    simp only [lookup_cons, sumsAt]
    split <;> rfl
  total := by
    rw [total_cons, total_cons, add_right_comm]

/-- The record gets a point of its own in front of the grid. -/
theorem Adds.before (ordered : grid.Ordered)
    (first : ∀ entry ∈ grid, record.point.precedes entry.1 = true) :
    grid.Adds record ((record.point, 0 + record.sums) :: grid) where
  ordered := ordered_cons.mpr ⟨first, ordered⟩
  lookup := by
    intro point
    rw [lookup_cons]
    split
    · rename_i here
      rw [sumsAt, here, lookup_eq_none first]
      rfl
    · rfl
  total := by
    rw [total_cons, zero_add, add_comm]

/-- The record goes to some point behind the first one. -/
theorem Adds.behind {entry : Point × Sums} {rest : Grid} (ordered : Ordered (entry :: rest))
    (later : entry.1.precedes record.point = true) (adds : Adds rest record next) :
    Adds (entry :: rest) record (entry :: next) where
  ordered := by
    refine ordered_cons.mpr ⟨fun ⟨point, sums⟩ member => ?_, adds.ordered⟩
    have found := (mem_iff_lookup adds.ordered).mp member
    rw [adds.lookup] at found
    split at found
    · rename_i here
      rw [here]
      exact later
    · exact (ordered_cons.mp ordered).1 (point, sums)
        ((mem_iff_lookup (ordered_cons.mp ordered).2).mpr found)
  lookup := by
    intro point
    have different : record.point ≠ entry.1 := by
      intro same
      rw [same, entry.1.not_precedes_self] at later
      cases later
    simp only [lookup_cons, adds.lookup, sumsAt]
    by_cases here : point = entry.1
    · rw [if_pos here, if_neg (here ▸ different.symm), if_pos here]
    · rw [if_neg here, if_neg here]
  total := by
    rw [total_cons, total_cons, adds.total, add_assoc]

/-- A record is added to the grid as long as the sums of its point stay in the range. -/
theorem exists_add (ordered : grid.Ordered) (fits : (grid.sumsAt record.point + record.sums).Fits) :
    ∃ next, add record grid = .ok next ∧ grid.Adds record next := by
  -- The cases are those of `add`: the end, this point, in front of it, behind it.
  induction grid with
  | nil =>
      have added : Sums.zero.add record = .ok (0 + record.sums) := Sums.add_of_fits fits
      exact ⟨_, bind_eq_ok_iff.mpr ⟨_, added, rfl⟩, .before ordered (by simp)⟩
  | cons entry rest hypothesis =>
      rcases entry with ⟨point, sums⟩
      rcases ordered_cons.mp ordered with ⟨first, sorted⟩
      unfold add
      by_cases here : record.point = point
      · cases here
        have found : sumsAt ((record.point, sums) :: rest) record.point = sums := by
          rw [sumsAt, lookup_cons, if_pos rfl]
          rfl
        rw [found] at fits
        rw [if_pos rfl]
        exact ⟨_, bind_eq_ok_iff.mpr ⟨_, Sums.add_of_fits fits, rfl⟩, .here ordered⟩
      · rw [if_neg here]
        by_cases early : record.point.precedes point = true
        · have all : ∀ entry ∈ (point, sums) :: rest, record.point.precedes entry.1 = true := by
            intro entry member
            rcases List.mem_cons.mp member with rfl | member
            · exact early
            · exact Point.precedes_trans early (first entry member)
          rw [sumsAt, lookup_eq_none all] at fits
          have added : Sums.zero.add record = .ok (0 + record.sums) := Sums.add_of_fits fits
          rw [if_pos early]
          exact ⟨_, bind_eq_ok_iff.mpr ⟨_, added, rfl⟩, .before ordered all⟩
        · rw [sumsAt, lookup_cons, if_neg here] at fits
          rcases hypothesis sorted fits with ⟨next, added, adds⟩
          have later := Point.precedes_of_ne here (Bool.eq_false_iff.mpr early)
          rw [if_neg early]
          exact ⟨_, bind_eq_ok_iff.mpr ⟨_, added, rfl⟩, .behind ordered later adds⟩

/-! ### All records of a run -/

/-- The grid has for each point the sums over its records, and nothing for other points. -/
structure Counts (grid : Grid) (records : List Record) : Prop where
  ordered : grid.Ordered
  lookup : ∀ point : Point, grid.lookup point =
    if point.share records = [] then none else some (Sums.total (point.share records))
  total : grid.total = Sums.total records

theorem Counts.sumsAt (counts : grid.Counts records) (point : Point) :
    grid.sumsAt point = Sums.total (point.share records) := by
  rw [Grid.sumsAt, counts.lookup]
  split
  · rename_i none
    rw [none]
    rfl
  · rfl

theorem Counts.step (counts : grid.Counts records) (adds : grid.Adds record next) :
    next.Counts (records ++ [record]) where
  ordered := adds.ordered
  lookup := by
    intro point
    rw [adds.lookup, Point.share_append]
    by_cases here : point = record.point
    · rw [if_pos here, counts.sumsAt, Point.share_singleton_of_eq here, if_neg (by simp),
        Sums.total_append, Sums.total_singleton]
    · rw [if_neg here, counts.lookup, Point.share_singleton_of_ne here, List.append_nil]
  total := by
    rw [adds.total, counts.total, Sums.total_append, Sums.total_singleton]

/-- The records are counted in, one after the other, as long as the sums stay in the range. -/
theorem exists_counts (fits : ∀ point : Point, (Sums.total (point.share records)).Fits) :
    ∃ grid, ofRecords records = .ok grid ∧ grid.Counts records := by
  -- From the end: `Counts` speaks of the grid of all records before the last.
  induction records using List.reverseRecOn with
  | nil => exact ⟨[], rfl, .nil, fun _ => rfl, rfl⟩
  | append_singleton records record hypothesis =>
      have sums : ∀ point : Point, (Sums.total (point.share records) +
          Sums.total (point.share [record])).Fits := by
        intro point
        rw [← Sums.total_append, ← Point.share_append]
        exact fits point
      rcases hypothesis fun point => (sums point).of_add with ⟨grid, made, counts⟩
      have room := sums record.point
      rw [Point.share_singleton_of_eq rfl, Sums.total_singleton, ← counts.sumsAt] at room
      rcases exists_add counts.ordered room with ⟨next, added, adds⟩
      exact ⟨next, foldlM_append_singleton made added, counts.step adds⟩

theorem Counts.unique (counts : grid.Counts records) (again : next.Counts records) : grid = next :=
  ext_lookup counts.ordered again.ordered fun point =>
    (counts.lookup point).trans (again.lookup point).symm

/-- A grid does not depend on the order of the records. -/
theorem Counts.perm {others : List Record} (counts : grid.Counts records)
    (permuted : records.Perm others) : grid.Counts others where
  ordered := counts.ordered
  lookup := by
    intro point
    have shares := point.share_perm permuted
    have empty : point.share records = [] ↔ point.share others = [] := by
      rw [← List.length_eq_zero_iff, shares.length_eq, List.length_eq_zero_iff]
    rw [counts.lookup, if_congr empty rfl (congrArg some (Sums.total_perm shares))]
  total := counts.total.trans (Sums.total_perm permuted)

/-- The grid groups the records by their points: the points are those of the records, in
strictly ascending order, and with each stand the sums over its records. -/
structure Partitions (grid : Grid) (records : List Record) : Prop where
  points : ∀ point, point ∈ grid.map Prod.fst ↔ ∃ record ∈ records, record.point = point
  ascending : (grid.map Prod.fst).Pairwise fun first second =>
    first.history < second.history ∨
      first.history = second.history ∧ first.hashTableLog2 < second.hashTableLog2
  shares : ∀ entry ∈ grid,
    entry.2 = ((records.filter fun record => record.point = entry.1).map Record.sums).sum
  whole : (grid.map Prod.snd).sum = (records.map Record.sums).sum

theorem Counts.partitions (counts : grid.Counts records) : grid.Partitions records where
  points := by
    intro point
    have found : (grid.lookup point).isSome = true ↔ ¬ point.share records = [] := by
      rw [counts.lookup]
      split <;> simp_all
    rw [Point.share_eq_nil_iff, not_not, List.lookup_isSome_iff] at found
    rw [← found, List.mem_map]
    constructor
    · rintro ⟨entry, member, rfl⟩
      exact ⟨entry, member, beq_self_eq_true _⟩
    · rintro ⟨entry, member, same⟩
      exact ⟨entry, member, (beq_iff_eq.mp same).symm⟩
  ascending := counts.ordered.imp Point.precedes_iff_lt.mp
  shares := by
    rintro ⟨point, sums⟩ member
    have found := (mem_iff_lookup counts.ordered).mp member
    rw [counts.lookup] at found
    split at found
    · cases found
    · exact (Option.some.inj found).symm
  whole := counts.total

end Grid

namespace Totals

variable {totals : Totals} {records : List Record}

/-- The times of the records. -/
def times (records : List Record) : Set Nat :=
  {time | ∃ record ∈ records, record.elapsed = time}

theorem times_append_singleton (records : List Record) (record : Record) :
    times (records ++ [record]) = insert record.elapsed (times records) := by
  ext time
  simp [times, or_comm, eq_comm]

theorem times_perm {first second : List Record} (permuted : first.Perm second) :
    times first = times second := by
  ext time
  simp only [times, Set.mem_ofPred_eq, permuted.mem_iff]

/-- What totals keep of the times, the bounds they start from included. -/
structure Measures (totals : Totals) (records : List Record) : Prop where
  kept : totals.records = records
  sum : totals.sum = (records.map Record.elapsed).sum
  least : IsLeast (insert (Length.limit - 1) (times records)) totals.min
  greatest : IsGreatest (insert 0 (times records)) totals.max

theorem exists_update {record : Record} (measures : totals.Measures records)
    (fits : totals.sum + record.elapsed < Length.limit) :
    ∃ next, totals.update record = .ok next ∧ next.Measures (records ++ [record]) := by
  refine ⟨_, bind_eq_ok_iff.mpr ⟨_, Length.add_of_lt fits, rfl⟩, ?_, ?_, ?_, ?_⟩
  · exact congrArg (· ++ [record]) measures.kept
  · simp [measures.sum]
  · rw [times_append_singleton, Set.insert_comm, Nat.min_comm]
    exact measures.least.insert record.elapsed
  · rw [times_append_singleton, Set.insert_comm, Nat.max_comm]
    exact measures.greatest.insert record.elapsed

theorem exists_measures (label : String)
    (fits : (records.map Record.elapsed).sum < Length.limit) :
    ∃ totals, ofRecords label records = .ok totals ∧ totals.Measures records := by
  induction records using List.reverseRecOn with
  | nil => exact ⟨start label, rfl, rfl, rfl, by simp [times, start], by simp [times, start]⟩
  | append_singleton records record hypothesis =>
      rw [List.map_append, List.sum_append] at fits
      rcases hypothesis (by omega) with ⟨totals, made, measures⟩
      rw [← measures.sum] at fits
      rcases exists_update measures (by simpa using fits) with ⟨next, updated, later⟩
      exact ⟨next, foldlM_append_singleton made updated, later⟩

/-- The bounds that totals start from do not count once there is a record. -/
theorem Measures.extremes (measures : totals.Measures records)
    (fits : ∀ record ∈ records, record.elapsed < Length.limit) (filled : records ≠ []) :
    IsLeast (times records) totals.min ∧ IsGreatest (times records) totals.max := by
  rcases List.exists_mem_of_ne_nil records filled with ⟨record, member⟩
  have taken : record.elapsed ∈ times records := ⟨record, member, rfl⟩
  have low := measures.least.2 (Set.mem_insert_of_mem _ taken)
  have high := measures.greatest.2 (Set.mem_insert_of_mem _ taken)
  have bound := fits record member
  refine ⟨⟨?_, fun time here => measures.least.2 (Set.mem_insert_of_mem _ here)⟩,
    ⟨?_, fun time here => measures.greatest.2 (Set.mem_insert_of_mem _ here)⟩⟩
  · rcases measures.least.1 with first | here
    · exact ⟨record, member, by omega⟩
    · exact here
  · rcases measures.greatest.1 with first | here
    · exact ⟨record, member, by omega⟩
    · exact here

/-- The sums that are kept of the records stay in the 64-bit range: the time over all of
them, and the three sums over the records of each point. -/
structure Fits (records : List Record) : Prop where
  sum : (records.map Record.elapsed).sum < Length.limit
  shares : ∀ point : Point, (Sums.total (point.share records)).Fits

/-- It is enough that the sums over all records do. -/
theorem Fits.of_total (fits : (Sums.total records).Fits) : Fits records where
  sum := Sums.elapsed_total records ▸ fits.elapsed
  shares := by
    intro point
    have parts := Sums.total_perm
      (List.filter_append_perm (fun record : Record => decide (record.point = point)) records)
    rw [← parts, Sums.total_append] at fits
    exact fits.of_add

theorem Fits.perm {others : List Record} (fits : Fits records) (permuted : records.Perm others) :
    Fits others where
  sum := (permuted.map Record.elapsed).sum_eq ▸ fits.sum
  shares := fun point => Sums.total_perm (point.share_perm permuted) ▸ fits.shares point

theorem Fits.elapsed_lt (fits : Fits records) {record : Record} (member : record ∈ records) :
    record.elapsed < Length.limit :=
  Nat.lt_of_le_of_lt (List.le_sum_of_mem (List.mem_map_of_mem member)) fits.sum

theorem Measures.perm {others : List Record} {permuted : Totals}
    (measures : totals.Measures records) (again : permuted.Measures others)
    (same : records.Perm others) :
    permuted.sum = totals.sum ∧ permuted.min = totals.min ∧ permuted.max = totals.max := by
  have least := again.least
  have greatest := again.greatest
  rw [← times_perm same] at least greatest
  refine ⟨?_, least.unique measures.least, greatest.unique measures.greatest⟩
  rw [again.sum, measures.sum, (same.map Record.elapsed).sum_eq]

/-- Whatever records are taken in, in whatever order: the grid groups them by their points, its
sums are those of the totals, and the extremes are times of records. -/
theorem partitions_records (label : String) {records : List Record} (fits : Fits records) :
    ∃ totals grid, ofRecords label records = .ok totals ∧ totals.grid = .ok grid ∧
      grid.Partitions records ∧
      ((grid.map Prod.snd).sum).elapsed = totals.sum ∧
      (records ≠ [] → IsLeast (times records) totals.min ∧ IsGreatest (times records) totals.max) ∧
      ∀ others, records.Perm others → ∃ permuted, ofRecords label others = .ok permuted ∧
        permuted.grid = .ok grid ∧ permuted.sum = totals.sum ∧ permuted.min = totals.min ∧
          permuted.max = totals.max := by
  rcases exists_measures label fits.sum with ⟨totals, made, measures⟩
  rcases Grid.exists_counts fits.shares with ⟨grid, added, counts⟩
  refine ⟨totals, grid, made, ?_, counts.partitions, ?_, ?_, ?_⟩
  · rw [Totals.grid, measures.kept, added]
  · rw [counts.partitions.whole, measures.sum]
    exact Sums.elapsed_total records
  · exact measures.extremes fun record => fits.elapsed_lt
  · intro others same
    rcases exists_measures label (fits.perm same).sum with ⟨permuted, taken, again⟩
    rcases Grid.exists_counts (fits.perm same).shares with ⟨next, counted, recounts⟩
    refine ⟨permuted, taken, ?_, measures.perm again same⟩
    rw [Totals.grid, again.kept, counted, recounts.unique (counts.perm same)]

/-- Records of one point before and after a record of another, which has no hash table. -/
def interleaved : List Record :=
  [⟨"bench", ⟨65536, some 14⟩, 5, 100, 40, true⟩, ⟨"bench", ⟨65536, none⟩, 9, 100, 60, true⟩,
    ⟨"bench", ⟨65536, some 14⟩, 7, 100, 40, true⟩, ⟨"bench", ⟨32768, some 9⟩, 1, 100, 50, false⟩]

theorem partitions_records_interleaved :
    Fits interleaved ∧ interleaved ≠ [] ∧ ∃ totals grid,
      ofRecords "zstd" interleaved = .ok totals ∧ totals.grid = .ok grid ∧
      grid.Partitions interleaved ∧ ((grid.map Prod.snd).sum).elapsed = totals.sum ∧
      IsLeast (times interleaved) totals.min ∧ IsGreatest (times interleaved) totals.max := by
  have fits : Fits interleaved := .of_total ⟨by decide, by decide, by decide⟩
  have filled : interleaved ≠ [] := List.cons_ne_nil _ _
  rcases partitions_records "zstd" fits with
    ⟨totals, grid, made, added, parts, sum, extremes, _⟩
  exact ⟨fits, filled, totals, grid, made, added, parts, sum, extremes filled⟩

/-- The point without a hash table comes before the one with the same history. -/
example : Grid.ofRecords interleaved = .ok [(⟨32768, some 9⟩, ⟨1, 100, 50⟩),
    (⟨65536, none⟩, ⟨9, 100, 60⟩), (⟨65536, some 14⟩, ⟨12, 200, 80⟩)] := by
  rfl

end Totals

end RoccCodec
