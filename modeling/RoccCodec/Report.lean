import RoccCodec.Size
import RoccCodec.Totals

namespace RoccCodec.Totals

/-!
# Reports

A report lists every record, then the sums of every point of the grid, then
one line over all requests, and last how many outputs were wrong, if any.
-/

def timeUnit : String := "ns"

/-- A hash table as a report names it. -/
def tableLabel : Option UInt64 → String
  | none => "-"
  | some log2 => toString log2.toNat

/-- A tuning point as a report names it. -/
def pointLabel (point : Point) : String × String :=
  (Size.format point.history, tableLabel point.hashTableLog2)

def recordLine (record : Record) : String :=
  let (history, table) := pointLabel record.point
  let mark := if record.verified then "" else " MISMATCH"
  s!"Took {record.elapsed} {timeUnit}, produced {record.outputLength} bytes " ++
    s!"from {record.inputLength} bytes for {record.name}, hist {history}, ht_log2 {table}{mark}"

/-- How many times the output fits into the input, or zero without an output. -/
def ratio (sums : Sums) : Float :=
  if sums.output = 0 then 0 else Decimal.quotient sums.input sums.output

def pointLine (point : Point) (sums : Sums) : String :=
  let (history, table) := pointLabel point
  s!"TOTAL: hist {history} ht_log2 {table}: {sums.elapsed} {timeUnit}, " ++
    s!"{sums.input} -> {sums.output} bytes, ratio {Decimal.fixed 3 (ratio sums)}"

def requestsLine (totals : Totals) : String :=
  let average := Decimal.fixed 2 totals.average
  s!"Requests: {totals.count}  Min: {totals.min}  Avg: {average}  " ++
    s!"Max: {totals.max} ({timeUnit})"

/-- The lines of the report.  The first one is empty. -/
def report (totals : Totals) : Except Overflow (List String) := do
  let grid ← totals.grid
  let records := totals.records.map recordLine
  let points := grid.map fun entry => pointLine entry.1 entry.2
  let requests := if totals.records.isEmpty then [] else [totals.requestsLine]
  let failed :=
    if totals.failures = 0 then []
    else [s!"FAILED: {totals.failures} outputs did not match the reference codec"]
  return ["", totals.label] ++ records ++ points ++ requests ++ failed

end RoccCodec.Totals
