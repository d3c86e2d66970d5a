import RoccCodec.CommandLine

namespace RoccCodec

/-!
# The program

The program reads its command line, runs what it asks for, and ends with an
exit code, the lines of its reports, and what it has to say about a failure.
-/

/-- How the program ends. -/
structure Ending where
  code : UInt32
  output : List String
  errors : String
  deriving DecidableEq, Repr

namespace Program

def usage : List String := [
  "Drives the Snappy/Zstd accelerator over a corpus of files",
  "",
  "Commands:",
  "  compress    Compress every input on the accelerator and verify with the software codec",
  "  decompress  Compress every input in software, then decompress it on the accelerator",
  "  sweep       Run every pipeline of every listed build, one simulated device each",
  "",
  "Options:",
  "  --codec <snappy|zstd>         (compress, decompress)",
  "  --profile <BUILD>             (compress, decompress) default compressor-soc",
  "  --spin-budget <POLLS>         (compress, decompress)",
  "  --profiles <BUILD,...>        (sweep) default all",
  "  --backend <sim|sim-threaded|null|rocc>  default sim",
  "  --latency-cycles <CYCLES>",
  "  --has-cache",
  "  --hist <SIZE,...>             default 64K",
  "  --ht-log2 <LOG2,...>          default 14",
  "  --level <LEVEL>               default 16"]

/-- The end of a program that was called in a wrong way or for its help. -/
def misused (error : UsageError) : Ending :=
  match error with
  | .displayHelp => ⟨error.exitCode, usage, ""⟩
  | _ => ⟨error.exitCode, [], s!"error: {error.name}\n"⟩

/-- The end of a program that arithmetic took out of its range. -/
def aborted (overflow : Overflow) : Ending := ⟨101, [], s!"{overflow.message}\n"⟩

/-- The end of a program that got so far. -/
def conclude : Except RunError Runs → Ending
  | .error (.failed (.overflow overflow)) => aborted overflow
  | .error error => ⟨1, [], error.display⟩
  | .ok runs =>
    match runs.report with
    | .error overflow => aborted overflow
    | .ok lines =>
      match runs.verdict with
      | .ok () => ⟨0, lines, ""⟩
      | .error error => ⟨1, lines, error.display⟩

def execute {m : Type → Type} [Monad m] (files : Files m) (now : m Nat)
    (arguments : List String) : m Ending := do
  match CommandLine.parse arguments with
  | .error error => return misused error
  | .ok invocation => return conclude (← (invocation.run files now).run)

end Program

end RoccCodec
