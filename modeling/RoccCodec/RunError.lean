import RoccCodec.Fault
import RoccCodec.Snappy

namespace RoccCodec

/-!
# Errors of a run

A run ends early for a reason of its own or for the failure of a call below it.
-/

/-- Why a run ended early. -/
inductive RunError where
  | unlisted (path cause : String)
  | unread (path cause : String)
  | noInput
  | noHardware
  | unsimulatedSweep
  | notOpened (pipeline : Pipeline) (fault : Fault)
  | notCompressed (name : String) (length : Nat)
  | failed (failure : Failure)
  | unverified (count : Nat)
  deriving DecidableEq, Repr

namespace RunError

/-- A pipeline as the errors name it. -/
def unitName : Pipeline → String
  | .snappyCompress => "snappy compressor"
  | .snappyDecompress => "snappy decompressor"
  | .zstdCompress => "zstd compressor"
  | .zstdDecompress => "zstd decompressor"

def message : RunError → String
  | .unlisted path _ => s!"Failed to list {path}"
  | .unread path _ => s!"Failed to read {path}"
  | .noInput => "no input files"
  | .noHardware => "the rocc backend needs a riscv64 build"
  | .unsimulatedSweep => "a sweep opens one device per pipeline and needs a simulated backend"
  | .notOpened pipeline _ => s!"Failed to open the {unitName pipeline}"
  | .notCompressed name _ => s!"Failed to compress {name}"
  | .failed failure => failure.message
  | .unverified count => s!"{count} outputs failed verification"

/-- What lies behind the error, where it passes something on. -/
def cause : RunError → Option String
  | .unlisted _ cause | .unread _ cause => some cause
  | .notOpened _ fault => some fault.message
  | .notCompressed _ length =>
    some (s!"snappy: input buffer (size = {length}) is larger than allowed " ++
      s!"(size = {Snappy.maxLength})")
  | .noInput | .noHardware | .unsimulatedSweep | .failed _ | .unverified _ => none

/-- The message and its cause in one line. -/
def chain (error : RunError) : String :=
  match error.cause with
  | some cause => s!"{error.message}: {cause}"
  | none => error.message

/-- The message and its cause as they are shown when a program ends. -/
def display (error : RunError) : String :=
  match error.cause with
  | some cause => s!"Error: {error.message}\n\nCaused by:\n    {cause}\n"
  | none => s!"Error: {error.message}\n"

end RunError

end RoccCodec
