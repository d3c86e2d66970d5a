import RoccCodec.Command

namespace RoccCodec

/-!
# Codec pipelines

A pipeline is one direction of one codec.  Tables indexed by pipelines or by
opcode slots are records with one field per index, so reading after writing is
decided by a comparison of indices.
-/

/-- The codecs, as a unit that hosts several of them names them. -/
inductive Algorithm where
  | zstd
  | snappy
  deriving DecidableEq, Repr, Inhabited

namespace Algorithm

def name : Algorithm → String
  | .zstd => "Zstd"
  | .snappy => "Snappy"

/-- The operand of an algorithm select command. -/
def id : Algorithm → UInt64
  | .zstd => 0
  | .snappy => 1

/-- The codec with this number, if there is one. -/
def ofId? (id : UInt64) : Option Algorithm :=
  if id = 0 then some .zstd else if id = 1 then some .snappy else none

theorem ofId?_id (algorithm : Algorithm) : ofId? algorithm.id = some algorithm := by
  cases algorithm <;> decide

end Algorithm

/-- One codec direction. -/
inductive Pipeline where
  | snappyCompress
  | snappyDecompress
  | zstdCompress
  | zstdDecompress
  deriving DecidableEq, Repr, Inhabited

namespace Pipeline

/-- Every pipeline, in the order in which the pipelines of a build are tried. -/
def all : List Pipeline :=
  [.snappyCompress, .snappyDecompress, .zstdCompress, .zstdDecompress]

theorem mem_all (pipeline : Pipeline) : pipeline ∈ all := by
  cases pipeline <;> decide

def name : Pipeline → String
  | .snappyCompress => "snappy-compress"
  | .snappyDecompress => "snappy-decompress"
  | .zstdCompress => "zstd-compress"
  | .zstdDecompress => "zstd-decompress"

def algorithm : Pipeline → Algorithm
  | .snappyCompress | .snappyDecompress => .snappy
  | .zstdCompress | .zstdDecompress => .zstd

def isCompression : Pipeline → Bool
  | .snappyCompress | .zstdCompress => true
  | .snappyDecompress | .zstdDecompress => false

end Pipeline

structure PerPipeline (α : Type) where
  snappyCompress : α
  snappyDecompress : α
  zstdCompress : α
  zstdDecompress : α
  deriving DecidableEq, Repr

namespace PerPipeline

variable {α : Type}

def replicate (value : α) : PerPipeline α := ⟨value, value, value, value⟩

def get (table : PerPipeline α) : Pipeline → α
  | .snappyCompress => table.snappyCompress
  | .snappyDecompress => table.snappyDecompress
  | .zstdCompress => table.zstdCompress
  | .zstdDecompress => table.zstdDecompress

def set (table : PerPipeline α) (pipeline : Pipeline) (value : α) : PerPipeline α :=
  match pipeline with
  | .snappyCompress => { table with snappyCompress := value }
  | .snappyDecompress => { table with snappyDecompress := value }
  | .zstdCompress => { table with zstdCompress := value }
  | .zstdDecompress => { table with zstdDecompress := value }

/-- Change the entry of one pipeline. -/
def modify (table : PerPipeline α) (pipeline : Pipeline) (change : α → α) : PerPipeline α :=
  table.set pipeline (change (table.get pipeline))

@[simp] theorem get_replicate (value : α) (pipeline : Pipeline) :
    (replicate value).get pipeline = value := by
  cases pipeline <;> rfl

@[simp] theorem get_set (table : PerPipeline α) (written read : Pipeline) (value : α) :
    (table.set written value).get read = if read = written then value else table.get read := by
  cases written <;> cases read <;> rfl

@[simp] theorem get_modify (table : PerPipeline α) (written read : Pipeline) (change : α → α) :
    (table.modify written change).get read =
      if read = written then change (table.get written) else table.get read := by
  cases written <;> cases read <;> rfl

/-- Changing nothing about one entry changes nothing. -/
@[simp] theorem modify_self (table : PerPipeline α) (pipeline : Pipeline) :
    table.modify pipeline (fun value => value) = table := by
  cases pipeline <;> rfl

theorem ext_get {first second : PerPipeline α}
    (same : ∀ pipeline, first.get pipeline = second.get pipeline) : first = second := by
  cases first
  cases second
  simp only [mk.injEq]
  exact ⟨same .snappyCompress, same .snappyDecompress, same .zstdCompress, same .zstdDecompress⟩

end PerPipeline

structure PerOpcode (α : Type) where
  custom0 : α
  custom1 : α
  custom2 : α
  custom3 : α
  deriving DecidableEq, Repr

namespace PerOpcode

variable {α : Type}

def replicate (value : α) : PerOpcode α := ⟨value, value, value, value⟩

def get (table : PerOpcode α) : Opcode → α
  | .custom0 => table.custom0
  | .custom1 => table.custom1
  | .custom2 => table.custom2
  | .custom3 => table.custom3

def set (table : PerOpcode α) (slot : Opcode) (value : α) : PerOpcode α :=
  match slot with
  | .custom0 => { table with custom0 := value }
  | .custom1 => { table with custom1 := value }
  | .custom2 => { table with custom2 := value }
  | .custom3 => { table with custom3 := value }

@[simp] theorem get_replicate (value : α) (slot : Opcode) :
    (replicate value).get slot = value := by
  cases slot <;> rfl

@[simp] theorem get_set (table : PerOpcode α) (written read : Opcode) (value : α) :
    (table.set written value).get read = if read = written then value else table.get read := by
  cases written <;> cases read <;> rfl

theorem ext_get {first second : PerOpcode α}
    (same : ∀ slot, first.get slot = second.get slot) : first = second := by
  cases first
  cases second
  simp only [mk.injEq]
  exact ⟨same .custom0, same .custom1, same .custom2, same .custom3⟩

end PerOpcode

end RoccCodec
