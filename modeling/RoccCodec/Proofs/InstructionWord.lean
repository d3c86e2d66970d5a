import Mathlib.Algebra.Ring.Nat
import RoccCodec.Proofs.Device.Dispatch

namespace RoccCodec

/-!
# What an instruction word tells

An instruction word holds six fields next to each other.  As a number it is the sum of the
fields, each times the weight of its place (`Command.toNat_word`), so every field is read
back by a division and a remainder, and no field reaches into its neighbour.  The operands
are not part of the word, and of the function code and of the register numbers only the low
bits are.

The word thus forgets one bit of the function code.  That this costs nothing is a fact about
the builds: no table assigns a code above seven bits (`Build.code_lt`).  Whatever two
channels of a build issue, for different kinds or on behalf of different pipelines, has
different words, except for the commands that belong to a unit as a whole
(`Command.word_faithful`).
-/

/-! ## Fields side by side -/

/-- A concatenation is the upper part, moved up, plus the lower part. -/
theorem toNat_append_eq_add {high low : Nat} (upper : BitVec high) (lower : BitVec low) :
    (upper ++ lower).toNat = upper.toNat * 2 ^ low + lower.toNat := by
  rw [BitVec.toNat_append, ← Nat.shiftLeft_add_eq_or_of_lt lower.isLt, Nat.shiftLeft_eq]

/-- Keeping the low bits of a byte and masking the others out are the same. -/
theorem setWidth_masked (byte : UInt8) (width : Nat) (mask : BitVec 32)
    (low : mask.toNat = 2 ^ width - 1) :
    (byte.toBitVec.setWidth width).setWidth 32 = byte.toBitVec.setWidth 32 &&& mask := by
  have least : byte.toNat % 2 ^ width ≤ byte.toNat := Nat.mod_le _ _
  have bound := byte.toNat_lt
  have whole : byte.toNat % 2 ^ 32 = byte.toNat := Nat.mod_eq_of_lt (by omega)
  apply BitVec.eq_of_toNat_eq
  simp only [BitVec.toNat_setWidth, BitVec.toNat_and, UInt8.toNat_toBitVec, low, whole]
  rw [Nat.and_two_pow_sub_one_eq_mod]
  exact Nat.mod_eq_of_lt (by omega)

/-- A field of a word is a quotient of it, up to a power of two. -/
theorem toNat_field (word : BitVec 32) (start length : Nat) :
    (word.extractLsb' start length).toNat = word.toNat / 2 ^ start % 2 ^ length := by
  rw [BitVec.extractLsb'_toNat, Nat.shiftRight_eq_div_pow]

theorem getLsbD_eq_decide (word : BitVec 32) (index : Nat) :
    word.getLsbD index = decide (word.toNat / 2 ^ index % 2 = 1) := by
  rw [← BitVec.testBit_toNat, Nat.testBit_eq_decide_div_mod_eq]

namespace Command

/-- The word as its masked fields, each moved to its place. -/
def masked (command : Command) (rd rs1 rs2 : UInt8) : BitVec 32 :=
  (command.funct.toBitVec.setWidth 32 &&& 0x7F#32) <<< 25
    ||| (rs2.toBitVec.setWidth 32 &&& 0x1F#32) <<< 20
    ||| (rs1.toBitVec.setWidth 32 &&& 0x1F#32) <<< 15
    ||| command.funct3.setWidth 32 <<< 12
    ||| (rd.toBitVec.setWidth 32 &&& 0x1F#32) <<< 7
    ||| command.opcode.bits.toBitVec.setWidth 32

theorem word_eq_masked (command : Command) (rd rs1 rs2 : UInt8) :
    command.word rd rs1 rs2 = command.masked rd rs1 rs2 := by
  have layout : ∀ (funct : BitVec 7) (second first : BitVec 5) (flags : BitVec 3)
      (answer : BitVec 5) (opcode : BitVec 7),
      (funct ++ second ++ first ++ flags ++ answer ++ opcode).setWidth 32 =
        funct.setWidth 32 <<< 25 ||| second.setWidth 32 <<< 20 ||| first.setWidth 32 <<< 15
          ||| flags.setWidth 32 <<< 12 ||| answer.setWidth 32 <<< 7 ||| opcode.setWidth 32 := by
    intro funct second first flags answer opcode
    simp only [BitVec.setWidth_append_eq_shiftLeft_setWidth_or, BitVec.shiftLeft_or_distrib,
      ← BitVec.shiftLeft_add]
  have opcode : command.opcode.bits.toBitVec.setWidth 32 =
      (command.opcode.bits.toBitVec.setWidth 7).setWidth 32 := by
    cases command.opcode <;> rfl
  have funct := setWidth_masked command.funct 7 0x7F#32 rfl
  have register := fun number : UInt8 => setWidth_masked number 5 0x1F#32 rfl
  rw [masked, ← funct, ← register, ← register, ← register, opcode, ← layout]
  exact (BitVec.setWidth_eq _).symm

theorem toNat_funct3 (command : Command) :
    command.funct3.toNat =
      command.xd.toNat * 4 + command.xs1.toNat * 2 + command.xs2.toNat := by
  unfold funct3
  cases command.xd <;> cases command.xs1 <;> cases command.xs2 <;> rfl

/-- The word as a number. -/
theorem toNat_word (command : Command) (rd rs1 rs2 : UInt8) :
    (command.word rd rs1 rs2).toNat =
      command.funct.toNat % 128 * 2 ^ 25 + rs2.toNat % 32 * 2 ^ 20 + rs1.toNat % 32 * 2 ^ 15
        + (command.xd.toNat * 4 + command.xs1.toNat * 2 + command.xs2.toNat) * 2 ^ 12
        + rd.toNat % 32 * 2 ^ 7 + command.opcode.bits.toNat := by
  have layout : ∀ (funct : BitVec 7) (second first : BitVec 5) (flags : BitVec 3)
      (answer : BitVec 5) (opcode : BitVec 7),
      (funct ++ second ++ first ++ flags ++ answer ++ opcode).toNat =
        funct.toNat * 2 ^ 25 + second.toNat * 2 ^ 20 + first.toNat * 2 ^ 15
          + flags.toNat * 2 ^ 12 + answer.toNat * 2 ^ 7 + opcode.toNat := by
    intro funct second first flags answer opcode
    simp only [toNat_append_eq_add]
    omega
  have opcode : command.opcode.bits.toNat % 2 ^ 7 = command.opcode.bits.toNat := by
    cases command.opcode <;> rfl
  refine (layout _ _ _ _ _ _).trans ?_
  simp only [BitVec.toNat_setWidth, UInt8.toNat_toBitVec, toNat_funct3, opcode]

/-- The word has each field of the command and each register number in its place. -/
structure Fills (command : Command) (rd rs1 rs2 : UInt8) (word : BitVec 32) : Prop where
  opcode : Opcode.ofBits? (UInt8.ofBitVec ((word.extractLsb' 0 7).setWidth 8)) =
    some command.opcode
  rd : (word.extractLsb' 7 5).toNat = rd.toNat % 32
  xs2 : word.getLsbD 12 = command.xs2
  xs1 : word.getLsbD 13 = command.xs1
  xd : word.getLsbD 14 = command.xd
  rs1 : (word.extractLsb' 15 5).toNat = rs1.toNat % 32
  rs2 : (word.extractLsb' 20 5).toNat = rs2.toNat % 32
  funct : (word.extractLsb' 25 7).toNat = command.funct.toNat % 128

theorem fills_word (command : Command) (rd rs1 rs2 : UInt8) :
    command.Fills rd rs1 rs2 (command.word rd rs1 rs2) := by
  -- Every field is a quotient of this sum, and the summands below it do not fill its weight.
  have value := command.toNat_word rd rs1 rs2
  have slot : command.opcode.bits.toNat < 128 := by
    cases command.opcode <;> decide
  have bit : ∀ flag : Bool, flag.toNat < 2 ∧ flag = decide (flag.toNat = 1) := by
    decide
  have xd := bit command.xd
  have xs1 := bit command.xs1
  have xs2 := bit command.xs2
  constructor
  case opcode =>
    rw [← Opcode.ofBits?_bits command.opcode]
    congr 1
    apply UInt8.toNat_inj.mp
    rw [UInt8.toNat_ofBitVec, BitVec.toNat_setWidth, toNat_field]
    omega
  case xs2 =>
    rw [getLsbD_eq_decide, xs2.2, decide_eq_decide]
    omega
  case xs1 =>
    rw [getLsbD_eq_decide, xs1.2, decide_eq_decide]
    omega
  case xd =>
    rw [getLsbD_eq_decide, xd.2, decide_eq_decide]
    omega
  all_goals
    rw [toNat_field]
    omega

/-- Two words are equal exactly if their fields are. -/
theorem word_eq_word_iff (first second : Command) (rd rs1 rs2 rd' rs1' rs2' : UInt8) :
    first.word rd rs1 rs2 = second.word rd' rs1' rs2' ↔
      first.opcode = second.opcode ∧
        (first.xd = second.xd ∧ first.xs1 = second.xs1 ∧ first.xs2 = second.xs2) ∧
        first.funct.toNat % 128 = second.funct.toNat % 128 ∧
        rd.toNat % 32 = rd'.toNat % 32 ∧ rs1.toNat % 32 = rs1'.toNat % 32 ∧
        rs2.toNat % 32 = rs2'.toNat % 32 := by
  constructor
  · intro same
    have left := first.fills_word rd rs1 rs2
    have right := second.fills_word rd' rs1' rs2'
    rw [← same] at right
    exact ⟨Option.some.inj (left.opcode.symm.trans right.opcode),
      ⟨left.xd.symm.trans right.xd, left.xs1.symm.trans right.xs1, left.xs2.symm.trans right.xs2⟩,
      left.funct.symm.trans right.funct, left.rd.symm.trans right.rd,
      left.rs1.symm.trans right.rs1, left.rs2.symm.trans right.rs2⟩
  · rintro ⟨opcode, ⟨xd, xs1, xs2⟩, funct, answer, operand, other⟩
    apply BitVec.eq_of_toNat_eq
    rw [toNat_word, toNat_word, opcode, xd, xs1, xs2, funct, answer, operand, other]

end Command

/-! ## The codes of a build -/

namespace Build

variable {build : Build} {pipeline other : Pipeline} {table others : FunctTable}
  {kind second : CommandKind} {funct : UInt8}

/-- No build has a code that the function field cannot hold. -/
theorem code_lt (present : build.table? pipeline = some table)
    (coded : table.code? kind = some funct) : funct.toNat < 128 :=
  of_decide_eq_true (of_codes (motive := fun _ _ _ _ funct => decide (funct.toNat < 128))
    (by decide) present coded)

/-- On one slot a code has one kind, and one pipeline unless it belongs to the unit. -/
theorem eq_of_code? (present : build.table? pipeline = some table)
    (beside : build.table? other = some others) (slot : table.opcode = others.opcode)
    (coded : table.code? kind = some funct) (again : others.code? second = some funct) :
    kind = second ∧ (kind.isShared = false → pipeline = other) := by
  have owner : ∀ {pipeline table kind}, build.table? pipeline = some table →
      table.code? kind = some funct → ∃ owner,
        build.decode? table.opcode funct = some (owner, kind) ∧
          (kind.isShared = false → owner = pipeline) := by
    intro pipeline table kind present coded
    cases shared : kind.isShared with
    | false => exact ⟨pipeline, decode?_of_code? present coded shared, fun _ => rfl⟩
    | true =>
        rcases decode?_of_shared present coded shared with ⟨owner, read⟩
        exact ⟨owner, read, fun own => Bool.noConfusion own⟩
  rcases owner present coded with ⟨first, read, own⟩
  rcases owner beside again with ⟨last, found, foreign⟩
  rw [slot, found, Option.some.injEq, Prod.mk.injEq] at read
  rcases read with ⟨rfl, rfl⟩
  exact ⟨rfl, fun free => (own free).symm.trans (foreign free)⟩

end Build

namespace Channel

/-- The commands of a channel, each with the kind it is meant as. -/
inductive Issues (channel : Channel) : CommandKind → Command → Prop
  | fence : channel.Issues .sfence channel.fence
  | push {parameter : Parameter} {command : Command} (sent : channel.push parameter = .ok command) :
    channel.Issues parameter.kind command
  | source (buffer : Buffer) : channel.Issues .srcInfo (channel.source buffer)
  | scratch {slot : ScratchSlot} {buffer : Buffer} {command : Command}
    (sent : channel.scratch slot buffer = .ok command) : channel.Issues slot.kind command
  | destination (address word : UInt64) :
    channel.Issues .destInfo (channel.destination address word)
  | level {level : Int32} {command : Command} (sent : channel.level level = .ok command) :
    channel.Issues .level command
  | check : channel.Issues .checkCompletion channel.check

variable {channel : Channel} {kind : CommandKind} {command : Command}

/-- A command goes to the slot of the unit under the code of its kind. -/
theorem Issues.coded (issued : channel.Issues kind command) :
    command.opcode = channel.table.opcode ∧ channel.table.code? kind = some command.funct := by
  cases issued with
  | fence => exact ⟨rfl, rfl⟩
  | @push parameter command sent =>
      rcases bind_eq_ok_iff.mp sent with ⟨funct, has, made⟩
      cases made
      cases parameter <;> exact ⟨rfl, code?_of_code has⟩
  | source buffer => exact ⟨rfl, rfl⟩
  | @scratch slot buffer command sent =>
      rcases bind_eq_ok_iff.mp sent with ⟨funct, has, made⟩
      cases made
      cases slot <;> exact ⟨rfl, code?_of_code has⟩
  | destination address word => exact ⟨rfl, rfl⟩
  | level sent =>
      rcases bind_eq_ok_iff.mp sent with ⟨funct, has, made⟩
      cases made
      exact ⟨rfl, code?_of_code has⟩
  | check => exact ⟨rfl, rfl⟩

/-- Equal words of one build mean the same kind, and the same pipeline unless the command
belongs to the unit. -/
theorem Issues.eq_of_word_eq {other : Channel} {second : CommandKind} {reply : Command}
    (built : channel.build = other.build) (issued : channel.Issues kind command)
    (again : other.Issues second reply) {rd rs1 rs2 : UInt8}
    (same : command.word rd rs1 rs2 = reply.word rd rs1 rs2) :
    kind = second ∧ (kind.isShared = false → channel.pipeline = other.pipeline) := by
  rcases issued.coded with ⟨slot, coded⟩
  rcases again.coded with ⟨place, found⟩
  rcases (Command.word_eq_word_iff command reply rd rs1 rs2 rd rs1 rs2).mp same with
    ⟨opcode, _, low, _⟩
  have small := Build.code_lt channel.present coded
  have narrow := Build.code_lt other.present found
  have funct : command.funct = reply.funct := by
    rw [Nat.mod_eq_of_lt small, Nat.mod_eq_of_lt narrow] at low
    exact UInt8.toNat_inj.mp low
  have beside := other.present
  rw [← built] at beside
  exact Build.eq_of_code? channel.present beside (slot.symm.trans (opcode.trans place)) coded
    (funct ▸ found)

end Channel

/-- What an instruction word keeps of a command, and that it keeps the commands of a build
apart. -/
theorem Command.word_faithful :
    (∀ (command : Command) (rd rs1 rs2 : UInt8),
      command.word rd rs1 rs2 = command.masked rd rs1 rs2 ∧
        command.Fills rd rs1 rs2 (command.word rd rs1 rs2)) ∧
    (∀ (first second : Command) (rd rs1 rs2 rd' rs1' rs2' : UInt8),
      first.word rd rs1 rs2 = second.word rd' rs1' rs2' ↔
        first.opcode = second.opcode ∧
          (first.xd = second.xd ∧ first.xs1 = second.xs1 ∧ first.xs2 = second.xs2) ∧
          first.funct.toNat % 128 = second.funct.toNat % 128 ∧
          rd.toNat % 32 = rd'.toNat % 32 ∧ rs1.toNat % 32 = rs1'.toNat % 32 ∧
          rs2.toNat % 32 = rs2'.toNat % 32) ∧
    ∀ (channel other : Channel) (kind second : CommandKind) (command reply : Command),
      channel.build = other.build → channel.Issues kind command → other.Issues second reply →
        kind ≠ second ∨ channel.pipeline ≠ other.pipeline ∧ kind.isShared = false →
          ∀ rd rs1 rs2 : UInt8, command.word rd rs1 rs2 ≠ reply.word rd rs1 rs2 := by
  refine ⟨?_, word_eq_word_iff, ?_⟩
  · intro command rd rs1 rs2
    exact ⟨word_eq_masked command rd rs1 rs2, command.fills_word rd rs1 rs2⟩
  intro channel other kind second command reply built issued again apart rd rs1 rs2 same
  rcases issued.eq_of_word_eq built again same with ⟨kinds, pipelines⟩
  rcases apart with different | ⟨different, own⟩
  · exact different kinds
  · exact different (pipelines own)

/-- The two sources of the combined decompressor, of which only the register numbers could
differ. -/
theorem Command.word_faithful_sources :
    let zstd : Channel := ⟨.decompressor, .zstdDecompress, Build.decompressorZstdDecompress, rfl⟩
    let snappy : Channel :=
      ⟨.decompressor, .snappyDecompress, Build.decompressorSnappyDecompress, rfl⟩
    ∀ (buffer : Buffer) (rd rs1 rs2 : UInt8),
      (zstd.source buffer).word rd rs1 rs2 ≠ (snappy.source buffer).word rd rs1 rs2 := by
  intro zstd snappy buffer
  exact word_faithful.2.2 zstd snappy .srcInfo .srcInfo _ _ rfl (.source buffer) (.source buffer)
    (Or.inr ⟨by decide, rfl⟩)

end RoccCodec
