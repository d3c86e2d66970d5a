namespace RoccCodec

/-!
# Coprocessor commands

A codec unit sits on one of the four custom opcode slots of the instruction
set, and one command is one register-to-register instruction.  A `Command`
keeps the function code as a byte; only `Command.word` narrows it to the seven
bits of the instruction, so two commands with different bytes may share a word.
-/

/-- The custom opcode slots a unit can be attached to. -/
inductive Opcode where
  | custom0
  | custom1
  | custom2
  | custom3
  deriving DecidableEq, Repr, Inhabited

namespace Opcode

/-- Every slot, in ascending order of its bits. -/
def all : List Opcode := [.custom0, .custom1, .custom2, .custom3]

def name : Opcode → String
  | .custom0 => "custom0"
  | .custom1 => "custom1"
  | .custom2 => "custom2"
  | .custom3 => "custom3"

/-- The major opcode of the instruction word. -/
def bits : Opcode → UInt8
  | .custom0 => 0x0B
  | .custom1 => 0x2B
  | .custom2 => 0x5B
  | .custom3 => 0x7B

/-- The slot with these opcode bits, if they name a custom slot. -/
def ofBits? (bits : UInt8) : Option Opcode :=
  all.find? fun slot => slot.bits == bits

theorem ofBits?_bits (slot : Opcode) : ofBits? slot.bits = some slot := by
  cases slot <;> decide

end Opcode

/-- The operations a function code can stand for.  An `sfence` drops what the unit
remembers of the page tables, and a completion check is answered once the unit
is done; the others carry the fields of a request or a parameter. -/
inductive CommandKind where
  | sfence
  | selectAlgorithm
  | srcInfo
  | literalsInfo
  | sequencesInfo
  | workspaceInfo
  | destInfo
  | level
  | checkCompletion
  | history
  | hashTableLog2
  | latencyInjection
  deriving DecidableEq, Repr, Inhabited

namespace CommandKind

/-- Every kind, in the order in which a function code is looked up. -/
def all : List CommandKind :=
  [.sfence, .selectAlgorithm, .srcInfo, .literalsInfo, .sequencesInfo, .workspaceInfo,
    .destInfo, .level, .checkCompletion, .history, .hashTableLog2, .latencyInjection]

theorem mem_all (kind : CommandKind) : kind ∈ all := by
  cases kind <;> decide

theorem nodup_all : all.Nodup := by decide

def name : CommandKind → String
  | .sfence => "Sfence"
  | .selectAlgorithm => "SelectAlgorithm"
  | .srcInfo => "SrcInfo"
  | .literalsInfo => "LiteralsInfo"
  | .sequencesInfo => "SequencesInfo"
  | .workspaceInfo => "WorkspaceInfo"
  | .destInfo => "DestInfo"
  | .level => "Level"
  | .checkCompletion => "CheckCompletion"
  | .history => "History"
  | .hashTableLog2 => "HashTableLog2"
  | .latencyInjection => "LatencyInjection"

end CommandKind

/-- One instruction as the driver issues it.  The flags say whether the unit
answers and which of the operands carry a value. -/
structure Command where
  opcode : Opcode
  funct : UInt8
  xd : Bool
  xs1 : Bool
  xs2 : Bool
  rs1 : UInt64
  rs2 : UInt64
  deriving DecidableEq, Repr, Inhabited

namespace Command

/-- A command with neither operands nor an answer. -/
def bare (opcode : Opcode) (funct : UInt8) : Command :=
  { opcode, funct, xd := false, xs1 := false, xs2 := false, rs1 := 0, rs2 := 0 }

def single (opcode : Opcode) (funct : UInt8) (rs1 : UInt64) : Command :=
  { bare opcode funct with xs1 := true, rs1 }

def pair (opcode : Opcode) (funct : UInt8) (rs1 rs2 : UInt64) : Command :=
  { bare opcode funct with xs1 := true, xs2 := true, rs1, rs2 }

/-- A command without operands whose answer is awaited. -/
def response (opcode : Opcode) (funct : UInt8) : Command :=
  { bare opcode funct with xd := true }

/-- The three register flags as the instruction carries them, `xd` highest. -/
def funct3 (command : Command) : BitVec 3 :=
  BitVec.ofBool command.xd ++ BitVec.ofBool command.xs1 ++ BitVec.ofBool command.xs2

/-- The instruction word for the given register numbers: function code,
second source, first source, flags, destination and opcode, from the highest
bits down.  Each field keeps the low bits of its value. -/
def word (command : Command) (rd rs1 rs2 : UInt8) : BitVec 32 :=
  command.funct.toBitVec.setWidth 7 ++ rs2.toBitVec.setWidth 5 ++ rs1.toBitVec.setWidth 5
    ++ command.funct3 ++ rd.toBitVec.setWidth 5 ++ command.opcode.bits.toBitVec.setWidth 7

end Command

end RoccCodec
