import RoccCodec.Fault
import RoccCodec.LittleEndian
import RoccCodec.Varint

namespace RoccCodec.Snappy

/-!
# Snappy blocks

A block is the length of the content in seven-bit groups, followed by runs of
literal bytes and copies of bytes produced before.  The encoder writes literals
only.  The decoder takes every element, also a copy that reaches into its own
output, and accepts a block only if the content has the declared length.
-/

/-- No block has more content than this. -/
def maxLength : Nat := 0xFFFFFFFF

/-- The length in front of a block has no more groups than this, which is enough
for every length a block can have. -/
def lengthGroups : Nat := 5

/-- The content length a block declares. -/
def declaredLength (source : List UInt8) : Except Fault Nat :=
  match Varint.read? lengthGroups source with
  | some (length, _) => if length ≤ maxLength then .ok length else .error .malformedFrame
  | none => .error .malformedFrame

theorem declaredLength_eq_ok_iff {source : List UInt8} {length : Nat} :
    declaredLength source = .ok length ↔
      length ≤ maxLength ∧ ∃ rest, Varint.read? lengthGroups source = some (length, rest) := by
  unfold declaredLength
  cases Varint.read? lengthGroups source with
  | none => simp
  | some found =>
    rcases found with ⟨number, rest⟩
    by_cases small : number ≤ maxLength
    · simp only [if_pos small, Except.ok.injEq, Option.some.injEq, Prod.mk.injEq]
      constructor
      · rintro rfl
        exact ⟨small, rest, rfl, rfl⟩
      · rintro ⟨_, _, same, _⟩
        exact same
    · simp only [if_neg small, Option.some.injEq, Prod.mk.injEq, reduceCtorEq, false_iff]
      rintro ⟨allowed, _, rfl, _⟩
      exact small allowed

/-- The most bytes the encoder puts into one literal. -/
def literalLimit : Nat := 65536

/-- One literal of 1 to 65536 bytes: up to 60 bytes have their count in the
tag, longer ones in one or two bytes after it. -/
def literal (bytes : List UInt8) : List UInt8 :=
  let last := bytes.length - 1
  if last < 60 then UInt8.ofNat (last * 4) :: bytes
  else if last < 256 then UInt8.ofNat (60 * 4) :: LittleEndian.toBytes 1 last ++ bytes
  else UInt8.ofNat (61 * 4) :: LittleEndian.toBytes 2 last ++ bytes

/-- The literals of a source, `count` of them. -/
def literals : Nat → List UInt8 → List UInt8
  | 0, _ => []
  | count + 1, source =>
    literal (source.take literalLimit) ++ literals count (source.drop literalLimit)

/-- A block with this content, if a block can have it. -/
def encode? (source : List UInt8) : Option (List UInt8) :=
  if source.length ≤ maxLength then
    some (Varint.write source.length
      ++ literals ((source.length + literalLimit - 1) / literalLimit) source)
  else
    none

/-- What an element tells the decoder to do: take so many of the following bytes
over, or repeat bytes from so far back. -/
inductive Element where
  | literal (length : Nat)
  | copy (offset length : Nat)
  deriving DecidableEq, Repr

namespace Element

/-- The element a tag starts, and what follows its tag and its numbers.

A literal tag with a count of 61 or more stands for a length in one to four
following bytes. -/
def read? (tag : UInt8) (rest : List UInt8) : Option (Element × List UInt8) :=
  let tag := tag.toNat
  match tag % 4 with
  | 0 =>
    let count := tag / 4 + 1
    if count ≤ 60 then some (.literal count, rest)
    else do
      let width := count - 60
      let last ← LittleEndian.read? width rest
      return (.literal (last + 1), rest.drop width)
  | 1 => do
    let low ← LittleEndian.read? 1 rest
    return (.copy (tag / 32 * 256 + low) (tag / 4 % 8 + 4), rest.drop 1)
  | 2 => do
    let offset ← LittleEndian.read? 2 rest
    return (.copy offset (tag / 4 + 1), rest.drop 2)
  | _ => do
    let offset ← LittleEndian.read? 4 rest
    return (.copy offset (tag / 4 + 1), rest.drop 4)

theorem length_of_read? {tag : UInt8} {rest after : List UInt8} {element : Element}
    (found : read? tag rest = some (element, after)) : after.length ≤ rest.length := by
  unfold read? at found
  dsimp only at found
  split at found
  · split at found
    · simp only [Option.some.injEq, Prod.mk.injEq] at found
      simp [← found.2]
    · simp only [Option.bind_eq_bind, Option.bind_eq_some_iff, Option.pure_def,
        Option.some.injEq, Prod.mk.injEq] at found
      obtain ⟨_, _, _, same⟩ := found
      simp [← same]
  all_goals
    simp only [Option.bind_eq_bind, Option.bind_eq_some_iff, Option.pure_def,
      Option.some.injEq, Prod.mk.injEq] at found
    obtain ⟨_, _, _, same⟩ := found
    simp [← same]

end Element

/-- Append `length` bytes, each a repetition of the byte `offset` back.  An
offset shorter than the length repeats bytes of the copy itself. -/
def copyBack (output : Array UInt8) (offset : Nat) : Nat → Array UInt8
  | 0 => output
  | length + 1 => copyBack (output.push (output.getD (output.size - offset) 0)) offset length

/-- The content the elements produce, on top of what was produced before. -/
def content? (output : Array UInt8) (source : List UInt8) : Option (Array UInt8) :=
  match source with
  | [] => some output
  | tag :: rest =>
    match _found : Element.read? tag rest with
    | none => none
    | some (.literal length, after) =>
      let bytes := after.take length
      if bytes.length = length then content? (bytes.foldl Array.push output) (after.drop length)
      else none
    | some (.copy offset length, after) =>
      if offset = 0 ∨ output.size < offset then none
      else content? (copyBack output offset length) after
termination_by source.length
decreasing_by
  · have shorter := Element.length_of_read? _found
    simp only [List.length_drop, List.length_cons]
    omega
  · have shorter := Element.length_of_read? _found
    simp only [List.length_cons]
    omega

/-- The content of a block, if the block is well formed. -/
def decode? (source : List UInt8) : Option (List UInt8) := do
  let (declared, elements) ← Varint.read? lengthGroups source
  if maxLength < declared then none
  else
    let content ← content? #[] elements
    if content.size = declared then some content.toList else none

end RoccCodec.Snappy
