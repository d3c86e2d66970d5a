import RoccCodec.FunctTable

namespace RoccCodec

/-!
# System-on-chip builds

A build fixes which pipelines exist, on which opcode slot each unit sits and
which function codes it answers to.  Codes that belong to the unit as a whole
(the fence, the completion check, the algorithm select) resolve to one fixed
pipeline of the slot, and a reader treats them as unit-wide.
-/

/-- The builds the driver knows: two Snappy units on slots of their own, a Zstd
and Snappy compressor with a Snappy decompressor to check it, and a Zstd and
Snappy decompressor with an algorithm select. -/
inductive Build where
  | snappyStandalone
  | compressor
  | decompressor
  deriving DecidableEq, Repr, Inhabited

namespace Build

def all : List Build := [.snappyStandalone, .compressor, .decompressor]

theorem mem_all (build : Build) : build ∈ all := by
  cases build <;> decide

def name : Build → String
  | .snappyStandalone => "snappy-standalone"
  | .compressor => "compressor"
  | .decompressor => "decompressor"

def standaloneSnappyCompress : FunctTable where
  opcode := .custom3
  signal := .bits64
  sfence := 0
  selectAlgorithm := none
  srcInfo := 1
  literalsInfo := none
  sequencesInfo := none
  workspaceInfo := none
  destInfo := 2
  level := none
  checkCompletion := 3
  history := 4
  hashTableLog2 := some 5
  latencyInjection := none

def standaloneSnappyDecompress : FunctTable where
  opcode := .custom2
  signal := .bits8
  sfence := 0
  selectAlgorithm := none
  srcInfo := 1
  literalsInfo := none
  sequencesInfo := none
  workspaceInfo := none
  destInfo := 2
  level := none
  checkCompletion := 3
  history := 4
  hashTableLog2 := none
  latencyInjection := none

def compressorZstdCompress : FunctTable where
  opcode := .custom2
  signal := .bits32
  sfence := 0
  selectAlgorithm := none
  srcInfo := 1
  literalsInfo := some 2
  sequencesInfo := some 3
  workspaceInfo := none
  destInfo := 4
  level := some 5
  checkCompletion := 10
  history := 11
  hashTableLog2 := some 12
  latencyInjection := some 13

def compressorSnappyCompress : FunctTable where
  opcode := .custom2
  signal := .bits32
  sfence := 0
  selectAlgorithm := none
  srcInfo := 6
  literalsInfo := none
  sequencesInfo := none
  workspaceInfo := none
  destInfo := 7
  level := none
  checkCompletion := 10
  history := 8
  hashTableLog2 := some 9
  latencyInjection := none

/-- The checking decompressor next to the combined compressor: the stand-alone
unit on another slot. -/
def compressorSnappyDecompress : FunctTable :=
  { standaloneSnappyDecompress with opcode := .custom3 }

def decompressorZstdDecompress : FunctTable where
  opcode := .custom2
  signal := .bits32
  sfence := 0
  selectAlgorithm := some 1
  srcInfo := 2
  literalsInfo := none
  sequencesInfo := none
  workspaceInfo := some 3
  destInfo := 4
  level := none
  checkCompletion := 5
  history := 6
  hashTableLog2 := none
  latencyInjection := some 11

def decompressorSnappyDecompress : FunctTable where
  opcode := .custom2
  signal := .bits8
  sfence := 0
  selectAlgorithm := some 1
  srcInfo := 7
  literalsInfo := none
  sequencesInfo := none
  workspaceInfo := none
  destInfo := 8
  level := none
  checkCompletion := 9
  history := 10
  hashTableLog2 := none
  latencyInjection := none

/-- The codes of a pipeline, if the build has the pipeline. -/
def table? : Build → Pipeline → Option FunctTable
  | .snappyStandalone, .snappyCompress => some standaloneSnappyCompress
  | .snappyStandalone, .snappyDecompress => some standaloneSnappyDecompress
  | .compressor, .zstdCompress => some compressorZstdCompress
  | .compressor, .snappyCompress => some compressorSnappyCompress
  | .compressor, .snappyDecompress => some compressorSnappyDecompress
  | .decompressor, .zstdDecompress => some decompressorZstdDecompress
  | .decompressor, .snappyDecompress => some decompressorSnappyDecompress
  | _, _ => none

def pipelines (build : Build) : List Pipeline :=
  Pipeline.all.filter fun pipeline => (build.table? pipeline).isSome

theorem mem_pipelines {build : Build} {pipeline : Pipeline} :
    pipeline ∈ build.pipelines ↔ (build.table? pipeline).isSome := by
  simp [pipelines, Pipeline.mem_all]

/-- Which command of which pipeline a unit of the build reads. -/
def decode? (build : Build) (opcode : Opcode) (funct : UInt8) :
    Option (Pipeline × CommandKind) :=
  build.pipelines.findSome? fun pipeline => do
    let table ← build.table? pipeline
    if table.opcode = opcode then
      let kind ← table.kindOf? funct
      return (pipeline, kind)
    else
      none

end Build

end RoccCodec
