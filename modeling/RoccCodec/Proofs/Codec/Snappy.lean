import RoccCodec.Bound
import RoccCodec.Snappy

namespace RoccCodec.Snappy

/-!
# Snappy blocks decode to what was encoded

The encoder makes literals only, so decoding undoes it one literal at a time:
`content?_literal_append` reads one literal off the head of the elements,
whatever follows it, and an induction over the count of literals does the
rest.  The overhead of a block is the number in front and at most three bytes
for each literal, which keeps it within the bound a destination is checked
against.
-/

/-! ## One literal -/

namespace Element

/-- A literal with its count in the tag. -/
theorem read?_short {count : Nat} (few : count < 60) (rest : List UInt8) :
    read? (UInt8.ofNat (count * 4)) rest = some (.literal (count + 1), rest) := by
  have tag : (UInt8.ofNat (count * 4)).toNat = count * 4 := by
    rw [UInt8.toNat_ofNat']
    omega
  have kind : count * 4 % 4 = 0 := by omega
  have value : count * 4 / 4 = count := by omega
  simp only [read?, tag, kind, value]
  rw [if_pos (by omega)]

/-- A literal with its count in the bytes behind the tag. -/
theorem read?_wide {width count : Nat} (one : 1 ≤ width) (four : width ≤ 4)
    (fits : count < LittleEndian.range width) (rest : List UInt8) :
    read? (UInt8.ofNat ((59 + width) * 4)) (LittleEndian.toBytes width count ++ rest) =
      some (.literal (count + 1), rest) := by
  have tag : (UInt8.ofNat ((59 + width) * 4)).toNat = (59 + width) * 4 := by
    rw [UInt8.toNat_ofNat']
    omega
  have kind : (59 + width) * 4 % 4 = 0 := by omega
  have value : (59 + width) * 4 / 4 + 1 - 60 = width := by omega
  have field := LittleEndian.read?_toBytes_append width count rest
  rw [Nat.mod_eq_of_lt fits] at field
  have drop : (LittleEndian.toBytes width count ++ rest).drop width = rest := by
    rw [List.drop_append_of_le_length (by simp), List.drop_of_length_le (by simp),
      List.nil_append]
  simp only [read?, tag, kind, value]
  rw [if_neg (by omega), field, drop]
  rfl

end Element

theorem length_literal_le (bytes : List UInt8) : (literal bytes).length ≤ bytes.length + 3 := by
  unfold literal
  dsimp only
  split
  · rw [List.length_cons]
    omega
  · split <;> simp only [List.length_append, List.length_cons, LittleEndian.length_toBytes] <;>
      omega

/-- The tag of a literal and the numbers behind it stand for its length. -/
theorem read?_literal {bytes : List UInt8} (filled : bytes ≠ [])
    (short : bytes.length ≤ literalLimit) (rest : List UInt8) :
    ∃ tag after, literal bytes ++ rest = tag :: after ∧
      Element.read? tag after = some (.literal bytes.length, bytes ++ rest) := by
  have positive : 0 < bytes.length := List.length_pos_iff.mpr filled
  have last : bytes.length - 1 + 1 = bytes.length := Nat.sub_add_cancel positive
  unfold literalLimit at short
  unfold literal
  dsimp only
  split
  · rename_i few
    refine ⟨_, bytes ++ rest, rfl, ?_⟩
    rw [Element.read?_short few, last]
  · split
    · rename_i medium
      have element := Element.read?_wide (Nat.le_refl 1) (by decide)
        (show bytes.length - 1 < LittleEndian.range 1 from medium) (bytes ++ rest)
      rw [last] at element
      exact ⟨_, _, congrArg (List.cons _) (List.append_assoc _ _ _), element⟩
    · have fits : bytes.length - 1 < LittleEndian.range 2 := by
        simp only [LittleEndian.range]
        omega
      have element := Element.read?_wide (by decide) (by decide) fits (bytes ++ rest)
      rw [last] at element
      exact ⟨_, _, congrArg (List.cons _) (List.append_assoc _ _ _), element⟩

theorem content?_literal_append {bytes : List UInt8} (filled : bytes ≠ [])
    (short : bytes.length ≤ literalLimit) (output : Array UInt8) (rest : List UInt8) :
    content? output (literal bytes ++ rest) = content? (bytes.foldl Array.push output) rest := by
  rcases read?_literal filled short rest with ⟨tag, after, shape, found⟩
  rw [shape, content?, found]
  simp

/-! ## All literals of a source -/

/-- The number of literals that cover a source. -/
def literalCount (length : Nat) : Nat := (length + literalLimit - 1) / literalLimit

theorem length_literals_le (count : Nat) (source : List UInt8) :
    (literals count source).length ≤ source.length + 3 * count := by
  induction count generalizing source with
  | zero => simp [literals]
  | succ count hypothesis =>
      have first := length_literal_le (source.take literalLimit)
      have rest := hypothesis (source.drop literalLimit)
      simp only [literals, List.length_append, List.length_take, List.length_drop] at first rest ⊢
      omega

theorem content?_literals (output : Array UInt8) (source : List UInt8) :
    content? output (literals (literalCount source.length) source) =
      some (source.foldl Array.push output) := by
  generalize counted : literalCount source.length = count
  unfold literalCount literalLimit at counted
  induction count generalizing output source with
  | zero =>
      have empty : source = [] := List.length_eq_zero_iff.mp (by omega)
      rw [empty, literals, content?]
      rfl
  | succ count hypothesis =>
      have filled : source.take literalLimit ≠ [] := by
        intro empty
        have lengths := congrArg List.length empty
        simp only [List.length_take, List.length_nil, literalLimit] at lengths
        omega
      have short : (source.take literalLimit).length ≤ literalLimit := by
        simp only [List.length_take]
        omega
      have fewer : ((source.drop literalLimit).length + 65536 - 1) / 65536 = count := by
        simp only [List.length_drop, literalLimit]
        omega
      rw [literals, content?_literal_append filled short, hypothesis _ _ fewer, ← List.foldl_append,
        List.take_append_drop]

/-! ## Blocks -/

/-- A source a block can have is encoded within the bound, and the block
declares its length and decodes to it. -/
theorem encode?_spec {source : List UInt8} (fits : source.length ≤ maxLength) :
    ∃ block, encode? source = some block ∧
      block.length ≤ 32 + source.length + source.length / 6 ∧
      declaredLength block = .ok source.length ∧ decode? block = some source := by
  have inRange : source.length < Varint.range lengthGroups := by
    unfold maxLength at fits
    simp only [lengthGroups, Varint.range]
    omega
  have number := Varint.read?_write_append (by decide) inRange
    (literals (literalCount source.length) source)
  refine ⟨_, if_pos fits, ?_, ?_, ?_⟩
  · have front := Varint.length_write_le (by decide) inRange
    have elements := length_literals_le (literalCount source.length) source
    unfold literalCount literalLimit at elements
    simp only [lengthGroups, List.length_append, literalLimit] at front ⊢
    omega
  · exact declaredLength_eq_ok_iff.mpr ⟨fits, _, number⟩
  · have content := content?_literals #[] source
    rw [decode?]
    rw [show (source.length + literalLimit - 1) / literalLimit = literalCount source.length from rfl,
      number]
    simp [content, Nat.not_lt.mpr fits]

/-- A block that decodes has the length of its content in front. -/
theorem exists_preamble {source content : List UInt8} (decoded : decode? source = some content) :
    content.length ≤ maxLength ∧
      ∃ rest, Varint.read? lengthGroups source = some (content.length, rest) := by
  rcases Option.bind_eq_some_iff.mp decoded with ⟨⟨size, elements⟩, read, checked⟩
  rcases Option.ite_none_left_eq_some.mp checked with ⟨allowed, produced⟩
  rcases Option.bind_eq_some_iff.mp produced with ⟨whole, _, kept⟩
  rcases Option.ite_none_right_eq_some.mp kept with ⟨same, made⟩
  cases made
  rw [Array.length_toList, same]
  exact ⟨Nat.not_lt.mp allowed, elements, read⟩

end RoccCodec.Snappy
