import RoccCodec.Build
import RoccCodec.Length

namespace RoccCodec

/-!
# Faults

A fault is a refusal that leaves the caller in control.  What a unit makes of a
request it has received is never a fault; that travels through the completion
word.  A `Failure` also covers the two ways in which a call is abandoned.
-/

/-- A refusal by the driver. -/
inductive Fault where
  | emptyRegion
  | outOfMemory
  | regionExhausted (requested remaining : Nat)
  | pipelineUnavailable (pipeline : Pipeline) (build : Build)
  | unsupported (pipeline : Pipeline) (command : CommandKind)
  | requestMismatch (pipeline : Pipeline)
  | destinationTooSmall (needed available : Nat)
  | scratchTooSmall (needed available : Nat)
  | unknownContentSize
  | malformedFrame
  | overlap
  | stalled (spins : UInt64)
  deriving DecidableEq, Repr

namespace Fault

def name : Fault → String
  | .emptyRegion => "EmptyRegion"
  | .outOfMemory => "OutOfMemory"
  | .regionExhausted .. => "RegionExhausted"
  | .pipelineUnavailable .. => "PipelineUnavailable"
  | .unsupported .. => "Unsupported"
  | .requestMismatch .. => "RequestMismatch"
  | .destinationTooSmall .. => "DestinationTooSmall"
  | .scratchTooSmall .. => "ScratchTooSmall"
  | .unknownContentSize => "UnknownContentSize"
  | .malformedFrame => "MalformedFrame"
  | .overlap => "Overlap"
  | .stalled .. => "Stalled"

def message : Fault → String
  | .emptyRegion => "device regions must be at least one byte long"
  | .outOfMemory => "region size does not fit a page-aligned layout"
  | .regionExhausted requested remaining =>
    s!"region exhausted: window of {requested} bytes, {remaining} bytes remaining"
  | .pipelineUnavailable pipeline build =>
    s!"{pipeline.name} is not present on the {build.name} build"
  | .unsupported pipeline command => s!"{pipeline.name} does not support {command.name}"
  | .requestMismatch pipeline => s!"request shape does not match {pipeline.name}"
  | .destinationTooSmall needed available =>
    s!"destination too small: need {needed} bytes, have {available}"
  | .scratchTooSmall needed available =>
    s!"scratch buffer too small: need {needed} bytes, have {available}"
  | .unknownContentSize => "frame header does not declare a content size"
  | .malformedFrame => "malformed compressed frame"
  | .overlap => "source and destination buffers overlap"
  | .stalled spins => s!"request did not complete after {spins} polls"

end Fault

/-- Why a call did not return a value. -/
inductive Failure where
  | refused (fault : Fault)
  | overflow (operation : Overflow)
  | hostWork
  deriving DecidableEq, Repr

namespace Failure

def message : Failure → String
  | .refused fault => fault.message
  | .overflow operation => operation.message
  | .hostWork => "host work failed"

/-- Carry a refusal over. -/
def ofFault {α : Type} (result : Except Fault α) : Except Failure α :=
  result.mapError .refused

def ofOverflow {α : Type} (result : Except Overflow α) : Except Failure α :=
  result.mapError .overflow

@[simp] theorem ofFault_ok {α : Type} (value : α) : ofFault (.ok value) = .ok value := rfl

@[simp] theorem ofFault_error {α : Type} (fault : Fault) :
    ofFault (.error fault : Except Fault α) = .error (.refused fault) := rfl

theorem ofFault_eq_ok_iff {α : Type} {result : Except Fault α} {value : α} :
    ofFault result = .ok value ↔ result = .ok value := by
  cases result <;> simp

@[simp] theorem ofOverflow_ok {α : Type} (value : α) : ofOverflow (.ok value) = .ok value := rfl

@[simp] theorem ofOverflow_error {α : Type} (operation : Overflow) :
    ofOverflow (.error operation : Except Overflow α) = .error (.overflow operation) := rfl

theorem ofOverflow_eq_ok_iff {α : Type} {result : Except Overflow α} {value : α} :
    ofOverflow result = .ok value ↔ result = .ok value := by
  cases result <;> simp

end Failure

/-- Two steps succeed if each of them does. -/
theorem bind_eq_ok_iff {ε α β : Type} {first : Except ε α} {next : α → Except ε β} {result : β} :
    first >>= next = .ok result ↔ ∃ value, first = .ok value ∧ next value = .ok result := by
  cases first with
  | error fault => simp [bind, Except.bind]
  | ok value => simp [bind, Except.bind]

/-- Two steps fail if the first does, or the second after it. -/
theorem bind_eq_error_iff {ε α β : Type} {first : Except ε α} {next : α → Except ε β} {cause : ε} :
    first >>= next = .error cause ↔
      first = .error cause ∨ ∃ value, first = .ok value ∧ next value = .error cause := by
  cases first with
  | error fault => simp [bind, Except.bind]
  | ok value => simp [bind, Except.bind]

end RoccCodec
