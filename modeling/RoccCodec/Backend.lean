import RoccCodec.Device.Target
import RoccCodec.RunError

namespace RoccCodec

/-!
# Backends

A run chooses what its commands go to: a model of the units, nothing at all,
or the units themselves.  The units can only be reached from a hart they are
attached to, so that choice is refused here.
-/

/-- What commands go to: a model that works on a request at once, a model with a
worker of its own, nothing at all, or the units of the machine. -/
inductive Backend where
  | inline
  | threaded
  | absent
  | hardware
  deriving DecidableEq, Repr, Inhabited

/-- What a simulated device is made with; the schedule says how a worker beside
the host gets on. -/
structure Outfit where
  codecs : Codecs
  schedule : Schedule

/-- The codecs of this library, and a worker that gets on while the host waits. -/
def Outfit.standard : Outfit := ⟨.software, .relaxed⟩

namespace Backend

def all : List Backend := [.inline, .threaded, .absent, .hardware]

def name : Backend → String
  | .inline => "sim"
  | .threaded => "sim-threaded"
  | .absent => "null"
  | .hardware => "rocc"

def isSimulated : Backend → Bool
  | .inline | .threaded => true
  | .absent | .hardware => false

def target (outfit : Outfit) (backend : Backend) (build : Build) : Except RunError Target :=
  match backend with
  | .inline => .ok (.simulated (.powerOnWith outfit.codecs build .inline))
  | .threaded => .ok (.simulated (.powerOnWith outfit.codecs build (.threaded outfit.schedule)))
  | .absent => .ok (.absent ⟨.skip⟩)
  | .hardware => .error .noHardware

/-- Nanoseconds that a request takes on top of the time it is seen to take. -/
def delay (backend : Backend) (tuning : Tuning) : Nat :=
  match backend with
  | .threaded => tuning.delay
  | .inline | .absent | .hardware => 0

end Backend

end RoccCodec
