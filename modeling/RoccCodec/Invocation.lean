import RoccCodec.Benchmark
import RoccCodec.Report

namespace RoccCodec

/-!
# Invocations

An invocation loads its corpus first and then runs benchmarks, one after the
other.  A sweep gives every benchmark a device of its own, so it has to be on
simulated devices.  Wrong outputs do not stop a run; it fails at its end.
-/

/-- What the program is asked to do: compress files and decompress the outputs to
check them, decompress compressed files and compare, or run every pipeline of
some builds. -/
inductive Invocation where
  | compress (codec : Algorithm) (options : DeviceOptions) (grid : TuningGrid)
    (files : List String)
  | decompress (codec : Algorithm) (options : DeviceOptions) (grid : TuningGrid)
    (files : List String)
  | sweep (builds : List Build) (backend : Backend) (grid : TuningGrid)
    (latencyCycles : Option UInt64) (hasCache : Bool) (files : List String)
  deriving DecidableEq, Repr

/-- What is left of an invocation that has come to its end. -/
structure Runs where
  totals : List Totals
  notices : List Notice

namespace Runs

def failures (runs : Runs) : Nat :=
  runs.totals.foldl (fun count totals => count + totals.failures) 0

def report (runs : Runs) : Except Overflow (List String) := do
  return (← runs.totals.mapM fun totals => totals.report).flatten

/-- Fail if an output was wrong. -/
def verdict (runs : Runs) : Except RunError Unit :=
  if runs.failures = 0 then .ok () else .error (.unverified runs.failures)

end Runs

namespace Invocation

def files : Invocation → List String
  | .compress _ _ _ files | .decompress _ _ _ files | .sweep _ _ _ _ _ files => files

def compressor : Algorithm → Pipeline
  | .snappy => .snappyCompress
  | .zstd => .zstdCompress

def decompressor : Algorithm → Pipeline
  | .snappy => .snappyDecompress
  | .zstd => .zstdDecompress

/-- The benchmarks of a sweep, build by build, each with these options on its own build. -/
def sweepBenchmarks (builds : List Build) (options : DeviceOptions) (grid : TuningGrid) :
    List Benchmark :=
  builds.flatMap fun build => build.pipelines.map fun pipeline =>
    ⟨pipeline, { options with build }, grid⟩

/-- What an invocation runs, if it can be run. -/
def benchmarks : Invocation → Except RunError (List Benchmark)
  | .compress codec options grid _ => .ok [⟨compressor codec, options, grid⟩]
  | .decompress codec options grid _ => .ok [⟨decompressor codec, options, grid⟩]
  | .sweep builds backend grid latencyCycles hasCache _ =>
    let latency := latencyCycles.map fun cycles => ⟨cycles, hasCache⟩
    if backend.isSimulated then .ok (sweepBenchmarks builds ⟨default, backend, latency, none⟩ grid)
    else .error .unsimulatedSweep

variable {m : Type → Type} [Monad m]

/-- Run an invocation on the files and the clock of its surroundings, with simulated
devices of this make. -/
def runWith (outfit : Outfit) (files : Files m) (now : m Nat) (invocation : Invocation) :
    ExceptT RunError m Runs := do
  let corpus ← Corpus.load files invocation.files
  let benchmarks ← invocation.benchmarks
  let results ← Benchmark.runAll outfit now corpus benchmarks
  return ⟨results.map Prod.fst, results.flatMap Prod.snd⟩

/-- Run an invocation with the codecs of this library. -/
def run (files : Files m) (now : m Nat) (invocation : Invocation) : ExceptT RunError m Runs :=
  invocation.runWith .standard files now

theorem algorithm_decompressor (codec : Algorithm) : (decompressor codec).algorithm = codec := by
  cases codec <;> rfl

end Invocation

end RoccCodec
