import RoccCodec.Pipeline

namespace RoccCodec

/-!
# Function code tables

On every build, a pipeline answers to its own function codes.  Nothing forces
the codes of a table to differ: `FunctTable.kindOf?` inverts `FunctTable.code?`
on a table with distinct codes and only there.
-/

/-- Which low-order bytes of the completion word a unit fills in: all, with a
count of bytes; four, with a count or a nonzero number for success; or one,
with a success flag. -/
inductive SignalWidth where
  | bits64
  | bits32
  | bits8
  deriving DecidableEq, Repr, Inhabited

namespace SignalWidth

def name : SignalWidth → String
  | .bits64 => "U64"
  | .bits32 => "I32"
  | .bits8 => "Bool"

end SignalWidth

/-- The codes of one pipeline on one build; `none` where the pipeline does not
have the command. -/
structure FunctTable where
  opcode : Opcode
  signal : SignalWidth
  sfence : UInt8
  selectAlgorithm : Option UInt8
  srcInfo : UInt8
  literalsInfo : Option UInt8
  sequencesInfo : Option UInt8
  workspaceInfo : Option UInt8
  destInfo : UInt8
  level : Option UInt8
  checkCompletion : UInt8
  history : UInt8
  hashTableLog2 : Option UInt8
  latencyInjection : Option UInt8
  deriving DecidableEq, Repr

namespace FunctTable

def code? (table : FunctTable) : CommandKind → Option UInt8
  | .sfence => some table.sfence
  | .selectAlgorithm => table.selectAlgorithm
  | .srcInfo => some table.srcInfo
  | .literalsInfo => table.literalsInfo
  | .sequencesInfo => table.sequencesInfo
  | .workspaceInfo => table.workspaceInfo
  | .destInfo => some table.destInfo
  | .level => table.level
  | .checkCompletion => some table.checkCompletion
  | .history => some table.history
  | .hashTableLog2 => table.hashTableLog2
  | .latencyInjection => table.latencyInjection

/-- The first kind of the lookup order that has this code. -/
def kindOf? (table : FunctTable) (funct : UInt8) : Option CommandKind :=
  CommandKind.all.find? fun kind => table.code? kind == some funct

/-- The command whose arrival starts a request.  A unit that takes a level per
request starts on it; every other unit starts on the destination. -/
def startTrigger (table : FunctTable) : CommandKind :=
  if table.level.isSome then .level else .destInfo

theorem code?_of_kindOf? {table : FunctTable} {funct : UInt8} {kind : CommandKind}
    (found : table.kindOf? funct = some kind) : table.code? kind = some funct := by
  simpa using List.find?_some found

theorem kindOf?_eq_none_iff {table : FunctTable} {funct : UInt8} :
    table.kindOf? funct = none ↔ ∀ kind, table.code? kind ≠ some funct := by
  simp [kindOf?, CommandKind.mem_all]

end FunctTable

end RoccCodec
