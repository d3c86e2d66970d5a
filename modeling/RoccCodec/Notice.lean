namespace RoccCodec

/-!
# Notices

A notice is a warning to whoever watches the machine.  It changes no result.
-/

/-- What there is to warn about. -/
inductive Notice where
  | requestStalled
  | unknownCommand
  | unknownAlgorithm
  | unselectedStart
  | incompleteRequest
  | shortScratch
  | rejectedRequest
  | compressorLatencyIgnored
  | decompressorLatencyIgnored
  | compressedMismatch
  | decompressedMismatch
  deriving DecidableEq, Repr

namespace Notice

def message : Notice → String
  | .requestStalled => "request stalled"
  | .unknownCommand => "unknown command ignored"
  | .unknownAlgorithm => "unknown algorithm selected"
  | .unselectedStart => "start without matching algorithm select, never completing"
  | .incompleteRequest => "incomplete request, never completing"
  | .shortScratch => "scratch smaller than source, never completing"
  | .rejectedRequest => "rejected request, never completing"
  | .compressorLatencyIgnored => "snappy compressors take no latency injection, ignoring it"
  | .decompressorLatencyIgnored => "snappy decompressors take no latency injection, ignoring it"
  | .compressedMismatch => "output does not decode to its input"
  | .decompressedMismatch => "output does not match its input"

end Notice

end RoccCodec
