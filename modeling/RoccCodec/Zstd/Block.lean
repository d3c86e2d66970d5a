import RoccCodec.LittleEndian

namespace RoccCodec.Zstd

/-!
# Zstd blocks

A block holds bytes as they are, or one byte and how often it is repeated, or
bytes that are entropy coded.  Coded blocks are passed over and not decoded.
What a block stands for is kept as a run until its bytes are needed, as a short
block may be a run of two million bytes.
-/

/-- No block has more content than this. -/
def maxBlock : Nat := 0x20000

/-- Content in one piece. -/
inductive Run where
  | stored (bytes : List UInt8)
  | fill (count : Nat) (byte : UInt8)
  deriving DecidableEq, Repr

namespace Run

def length : Run → Nat
  | .stored bytes => bytes.length
  | .fill count _ => count

def toList : Run → List UInt8
  | .stored bytes => bytes
  | .fill count byte => List.replicate count byte

@[simp] theorem length_toList (run : Run) : run.toList.length = run.length := by
  cases run <;> simp [toList, length]

/-- Repetitions shorter than this are not worth a run of their own. -/
def minFill : Nat := 7

/-- A run of these bytes. -/
def ofList (bytes : List UInt8) : Run :=
  match bytes with
  | [] => .stored []
  | first :: rest =>
    if minFill ≤ bytes.length ∧ rest.all (fun byte => byte == first) then
      .fill bytes.length first
    else
      .stored bytes

@[simp] theorem toList_ofList (bytes : List UInt8) : (ofList bytes).toList = bytes := by
  cases bytes with
  | nil => rfl
  | cons first rest =>
    unfold ofList
    dsimp only
    split
    · rename_i uniform
      have same : ∀ byte ∈ rest, byte = first := by
        intro byte member
        exact eq_of_beq (List.all_eq_true.mp uniform.2 byte member)
      rw [toList, List.length_cons, List.replicate_succ, ← List.eq_replicate_of_mem same]
    · rfl

end Run

/-- Content in pieces, one behind the other. -/
abbrev Content : Type := List Run

namespace Content

def size (content : Content) : Nat := content.foldl (fun sum run => sum + run.length) 0

def bytes (content : Content) : List UInt8 := content.flatMap Run.toList

theorem foldl_size (content : Content) (start : Nat) :
    content.foldl (fun sum run => sum + run.length) start = start + content.bytes.length := by
  induction content generalizing start with
  | nil => simp [bytes]
  | cons run rest hypothesis =>
    rw [List.foldl_cons, hypothesis]
    simp only [bytes, List.flatMap_cons, List.length_append, Run.length_toList]
    omega

theorem length_bytes (content : Content) : content.bytes.length = content.size := by
  rw [size, foldl_size, Nat.zero_add]

end Content

/-- What a block holds. -/
inductive Body where
  | run (run : Run)
  | coded (bytes : List UInt8)
  deriving DecidableEq, Repr

namespace Body

/-- The bytes the body takes in a frame. -/
def width : Body → Nat
  | .run (.stored bytes) => bytes.length
  | .run (.fill _ _) => 1
  | .coded bytes => bytes.length

/-- The number of the kind, and the number in the size field. -/
def tag : Body → Nat × Nat
  | .run (.stored bytes) => (0, bytes.length)
  | .run (.fill count _) => (1, count)
  | .coded bytes => (2, bytes.length)

/-- The body of a kind and a size, and what follows it. -/
def read? (kind size : Nat) (source : List UInt8) : Option (Body × List UInt8) :=
  if kind = 1 then
    match source with
    | [] => none
    | byte :: rest => some (.run (.fill size byte), rest)
  else
    let bytes := source.take size
    if bytes.length ≠ size then none
    else if kind = 0 then some (.run (.stored bytes), source.drop size)
    else if kind = 2 then some (.coded bytes, source.drop size)
    else none

def write : Body → List UInt8
  | .run (.stored bytes) => bytes
  | .run (.fill _ byte) => [byte]
  | .coded bytes => bytes

@[simp] theorem length_write (body : Body) : body.write.length = body.width := by
  rcases body with (_ | _) | _ <;> simp [write, width]

theorem length_of_read? {kind size : Nat} {source after : List UInt8} {body : Body}
    (found : read? kind size source = some (body, after)) : after.length ≤ source.length := by
  unfold read? at found
  split at found
  · split at found
    · simp at found
    · simp only [Option.some.injEq, Prod.mk.injEq] at found
      simp [← found.2]
  · dsimp only at found
    split at found
    · simp at found
    · split at found
      · simp only [Option.some.injEq, Prod.mk.injEq] at found
        simp [← found.2]
      · split at found
        · simp only [Option.some.injEq, Prod.mk.injEq] at found
          simp [← found.2]
        · simp at found

/-- A body is read back, whatever follows it. -/
theorem read?_write_append (body : Body) (rest : List UInt8) :
    read? body.tag.1 body.tag.2 (body.write ++ rest) = some (body, rest) := by
  rcases body with (_ | _) | _ <;> simp [read?, write, tag]

end Body

/-- A block of a frame; the last one says so. -/
structure Block where
  last : Bool
  body : Body
  deriving DecidableEq, Repr

namespace Block

def length (block : Block) : Nat := 3 + block.body.width

/-- Three bytes go before the body: the lowest bit marks the last block, two
bits are the kind, and the rest is the size. -/
def read? (source : List UInt8) : Option (Block × List UInt8) := do
  let number ← LittleEndian.read? 3 source
  let (body, rest) ← Body.read? (number / 2 % 4) (number / 8) (source.drop 3)
  return (⟨number % 2 == 1, body⟩, rest)

def write (block : Block) : List UInt8 :=
  let (kind, size) := block.body.tag
  LittleEndian.toBytes 3 (size * 8 + kind * 2 + if block.last then 1 else 0) ++ block.body.write

theorem length_of_read? {source after : List UInt8} {block : Block}
    (found : read? source = some (block, after)) : after.length < source.length := by
  simp only [read?, Option.bind_eq_bind, Option.bind_eq_some_iff, Option.pure_def,
    Option.some.injEq, Prod.mk.injEq, Prod.exists] at found
  obtain ⟨number, present, body, rest, taken, _, same⟩ := found
  have enough : ¬ source.length < 3 := by
    intro short
    rw [LittleEndian.read?_eq_none_iff.mpr short] at present
    simp at present
  have kept := Body.length_of_read? taken
  rw [List.length_drop] at kept
  rw [← same]
  omega

/-- The blocks up to the last one, on top of those read before, and what
follows them. -/
def readAll? (blocks : Array Block) (source : List UInt8) : Option (Array Block × List UInt8) :=
  match _found : read? source with
  | none => none
  | some (block, rest) =>
    if block.last then some (blocks.push block, rest)
    else readAll? (blocks.push block) rest
termination_by source.length
decreasing_by exact length_of_read? _found

theorem length_of_readAll? {blocks all : Array Block} {source after : List UInt8}
    (found : readAll? blocks source = some (all, after)) : after.length < source.length := by
  fun_induction readAll? blocks source with
  | case1 => simp at found
  | case2 blocks source block rest taken last =>
    simp only [Option.some.injEq, Prod.mk.injEq] at found
    rw [← found.2]
    exact length_of_read? taken
  | case3 blocks source block rest taken last hypothesis =>
    exact Nat.lt_trans (hypothesis found) (length_of_read? taken)

/-- What the block stands for. -/
def run? (block : Block) : Option Run :=
  match block.body with
  | .run run => some run
  | .coded _ => none

/-- What the block stands for, if neither it nor its body is longer than the
limit.  A coded block without a body stands for nothing. -/
def runWithin? (limit : Nat) (block : Block) : Option Run :=
  if limit < block.body.width then none
  else
    match block.body with
    | .run run => if run.length ≤ limit then some run else none
    | .coded [] => some (.stored [])
    | .coded _ => none

end Block

end RoccCodec.Zstd
