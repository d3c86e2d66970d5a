import RoccCodec.Decimal
import RoccCodec.Length

namespace RoccCodec

/-!
# Totals

Totals collect the records of one pipeline.  The grid adds them up point by
point, in ascending order of the history and then of the hash table, where no
hash table comes before every hash table.  A sum that leaves the 64-bit range is
an abort.
-/

/-- The tuning a request was made with; not every pipeline has a hash table. -/
structure Point where
  history : UInt64
  hashTableLog2 : Option UInt64
  deriving DecidableEq, Repr

namespace Point

/-- The place of a point in the order of the points. -/
def rank (point : Point) : Nat × Nat :=
  (point.history.toNat, (point.hashTableLog2.map fun log2 => log2.toNat + 1).getD 0)

/-- The first point comes strictly before the second. -/
def precedes (first second : Point) : Bool :=
  decide (first.rank.1 < second.rank.1) ||
    decide (first.rank.1 = second.rank.1) && decide (first.rank.2 < second.rank.2)

theorem eq_of_rank_eq {first second : Point} (same : first.rank = second.rank) :
    first = second := by
  obtain ⟨firstHistory, firstTable⟩ := first
  obtain ⟨secondHistory, secondTable⟩ := second
  simp only [rank, Prod.mk.injEq] at same
  have history : firstHistory = secondHistory := UInt64.toNat_inj.mp same.1
  have table : firstTable = secondTable := by
    cases firstTable with
    | none => cases secondTable <;> simp_all
    | some firstLog2 =>
      cases secondTable with
      | none => simp_all
      | some secondLog2 =>
        have equal : firstLog2.toNat = secondLog2.toNat := by simpa using same.2
        rw [UInt64.toNat_inj.mp equal]
  rw [history, table]

theorem precedes_iff {first second : Point} :
    first.precedes second = true ↔
      first.rank.1 < second.rank.1 ∨
        first.rank.1 = second.rank.1 ∧ first.rank.2 < second.rank.2 := by
  simp [precedes]

theorem not_precedes_self (point : Point) : point.precedes point = false := by
  simp [precedes]

theorem precedes_trans {first second third : Point} (left : first.precedes second = true)
    (right : second.precedes third = true) : first.precedes third = true := by
  rw [precedes_iff] at left right ⊢
  omega

/-- Of two distinct points one comes first. -/
theorem precedes_of_ne {first second : Point} (different : first ≠ second)
    (later : first.precedes second = false) : second.precedes first = true := by
  have ranks : first.rank ≠ second.rank := fun same => different (eq_of_rank_eq same)
  rw [ne_eq, Prod.ext_iff] at ranks
  have backward : ¬ first.precedes second = true := by simp [later]
  rw [precedes_iff] at backward ⊢
  omega

end Point

/-- What was measured of one request, for the input with this name.  It is
verified if the software codec agrees with the output. -/
structure Record where
  name : String
  point : Point
  elapsed : Nat
  inputLength : Nat
  outputLength : Nat
  verified : Bool
  deriving DecidableEq, Repr

/-- The sums over the records of one point. -/
structure Sums where
  elapsed : Nat
  input : Nat
  output : Nat
  deriving DecidableEq, Repr

namespace Sums

def zero : Sums := ⟨0, 0, 0⟩

def add (sums : Sums) (record : Record) : Except Overflow Sums := do
  let elapsed ← Length.add sums.elapsed record.elapsed
  let input ← Length.add sums.input record.inputLength
  let output ← Length.add sums.output record.outputLength
  return ⟨elapsed, input, output⟩

end Sums

/-- The sums of every point, in ascending order of the points. -/
abbrev Grid : Type := List (Point × Sums)

namespace Grid

def add (record : Record) : Grid → Except Overflow Grid
  | [] => do return [(record.point, ← Sums.zero.add record)]
  | (point, sums) :: rest =>
    if record.point = point then do
      return (point, ← sums.add record) :: rest
    else if record.point.precedes point then do
      return (record.point, ← Sums.zero.add record) :: (point, sums) :: rest
    else do
      return (point, sums) :: (← add record rest)

def ofRecords (records : List Record) : Except Overflow Grid :=
  records.foldlM (fun grid record => add record grid) []

end Grid

/-- The records of one pipeline, the oldest first.  Before the first record, the
least time is the greatest 64-bit number. -/
structure Totals where
  label : String
  records : List Record
  min : Nat
  max : Nat
  sum : Nat
  deriving DecidableEq, Repr

namespace Totals

def start (label : String) : Totals := ⟨label, [], Length.limit - 1, 0, 0⟩

def update (totals : Totals) (record : Record) : Except Overflow Totals := do
  let sum ← Length.add totals.sum record.elapsed
  return {
    totals with
    records := totals.records ++ [record]
    min := Min.min totals.min record.elapsed
    max := Max.max totals.max record.elapsed
    sum }

def ofRecords (label : String) (records : List Record) : Except Overflow Totals :=
  records.foldlM update (start label)

def count (totals : Totals) : Nat := totals.records.length

/-- The mean time, or zero without a record. -/
def average (totals : Totals) : Float :=
  if totals.records.isEmpty then 0 else Decimal.quotient totals.sum totals.count

def failures (totals : Totals) : Nat := totals.records.countP fun record => !record.verified

def grid (totals : Totals) : Except Overflow Grid := Grid.ofRecords totals.records

end Totals

end RoccCodec
