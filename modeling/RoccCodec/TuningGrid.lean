import RoccCodec.Pipeline
import RoccCodec.Totals

namespace RoccCodec

/-!
# Tuning grids

A compression takes every history with every hash table; a decompression has no
hash table and takes the histories alone.
-/

/-- The tunings that a run goes through. -/
structure TuningGrid where
  histories : List UInt64
  hashTables : List UInt64
  level : Int32
  deriving DecidableEq, Repr

namespace TuningGrid

/-- Every history with every hash table; the hash tables change faster. -/
def pairs (grid : TuningGrid) : List (UInt64 × UInt64) :=
  grid.histories.flatMap fun history => grid.hashTables.map fun log2 => (history, log2)

def points (grid : TuningGrid) (pipeline : Pipeline) : List Point :=
  if pipeline.isCompression then grid.pairs.map fun pair => ⟨pair.1, some pair.2⟩
  else grid.histories.map fun history => ⟨history, none⟩

/-- The history a run starts with. -/
def firstHistory (grid : TuningGrid) : UInt64 := grid.histories.head?.getD 65536

end TuningGrid

end RoccCodec
