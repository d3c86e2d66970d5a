import RoccCodec.Proofs.Size
import RoccCodec.Report

namespace RoccCodec

/-!
# The points of a report

A report names a tuning point by the size of its history and by its hash table.  A size is
printed as one of its spellings (`Size.exists_spelling_write`), so it is read back as the
same number of bytes, and it has no blank inside, as a hash table has neither a blank nor a
colon.  Every line of a report about a point therefore belongs to one point only, whatever
else it reports and whatever the names of the inputs are (`Totals.identifies_points`).
-/

namespace Size

namespace Spelling

/-- A number with a letter behind it and nothing around it. -/
def plain (number : Nat) (suffix : Option (Char × Nat)) (known : ∀ entry ∈ suffix, entry ∈ letters) :
    Spelling where
  before := []
  digits := Numeral.digits number
  suffix := suffix
  after := []
  blank_before := by simp
  filled := Numeral.digits_ne_nil number
  decimal := fun _ => Numeral.isDigit_of_mem_digits
  known := known
  blank_after := by simp

theorem exists_plain (number : Nat) (suffix : Option (Char × Nat))
    (known : ∀ entry ∈ suffix, entry ∈ letters) {bytes : Nat}
    (value : number * (suffix.map Prod.snd).getD 1 = bytes) :
    ∃ spelling : Spelling,
      spelling.body = Numeral.digits number ++ (suffix.map Prod.fst).toList ∧
      spelling.text = spelling.body ∧ spelling.size = bytes := by
  refine ⟨plain number suffix known, rfl, List.append_nil _, ?_⟩
  rw [size, count, plain, Numeral.value_digits]
  exact value

theorem count_le_size (spelling : Spelling) : spelling.count ≤ spelling.size := by
  apply Nat.le_mul_of_pos_right
  unfold unit
  cases ended : spelling.suffix with
  | none => decide
  | some entry =>
      have positive : ∀ entry ∈ letters, 0 < entry.2 := by decide
      exact positive entry (spelling.known entry ended)

end Spelling

/-- A size is printed as one of its spellings, with nothing around it. -/
theorem exists_spelling_write (bytes : UInt64) :
    ∃ spelling : Spelling, spelling.body = write bytes ∧ spelling.text = spelling.body ∧
      spelling.size = bytes.toNat := by
  have whole : ∀ {unit : Nat}, bytes.toNat % unit = 0 → bytes.toNat / unit * unit = bytes.toNat :=
    fun divides => Nat.div_mul_cancel (Nat.dvd_of_mod_eq_zero divides)
  unfold write
  dsimp only
  split_ifs with zero inGiga inMega inKilo
  · exact Spelling.exists_plain 0 none (by simp) zero.symm
  · exact Spelling.exists_plain _ (some ('G', giga)) (by decide) (whole inGiga)
  · exact Spelling.exists_plain _ (some ('M', mega)) (by decide) (whole inMega)
  · exact Spelling.exists_plain _ (some ('K', kilo)) (by decide) (whole inKilo)
  · simpa using Spelling.exists_plain bytes.toNat none (by simp) (Nat.mul_one _)

theorem read_write (bytes : UInt64) : read (write bytes) = .ok bytes := by
  rcases exists_spelling_write bytes with ⟨spelling, body, text, size⟩
  have fits : spelling.size < Length.limit := size ▸ bytes.toNat_lt
  rw [← body, ← text, read_text, if_pos (spelling.count_le_size.trans_lt fits), if_pos fits, size,
    UInt64.ofNat_toNat]

theorem write_injective : Function.Injective write := by
  intro first second same
  have found := read_write first
  rw [same, read_write second] at found
  exact (Except.ok.inj found).symm

theorem parse_format (bytes : UInt64) : parse (format bytes) = .ok bytes := by
  rw [parse_eq_ok_iff, format, String.toList_ofList, read_write]

theorem format_injective : Function.Injective format := by
  intro first second same
  exact write_injective (String.ofList_injective same)

/-- There is no blank in a printed size. -/
theorem isBlank_eq_false_of_mem_write {bytes : UInt64} {character : Char}
    (member : character ∈ write bytes) : Text.isBlank character = false := by
  rcases exists_spelling_write bytes with ⟨spelling, body, _⟩
  exact spelling.isBlank_eq_false_of_mem_body (body ▸ member)

end Size

/-! ## Lines -/

/-- A separator ends the first field that does not contain it. -/
theorem eq_of_append_cons_eq {separator : Char} {first second behind after : List Char}
    (free : separator ∉ first) (clear : separator ∉ second)
    (same : first ++ separator :: behind = second ++ separator :: after) :
    first = second ∧ behind = after := by
  rcases List.append_eq_append_iff.mp same with ⟨middle, rfl, tail⟩ | ⟨middle, rfl, tail⟩
  · cases middle with
    | nil => exact ⟨(List.append_nil _).symm, (List.cons.inj tail).2⟩
    | cons head rest =>
        rcases List.cons.inj tail with ⟨rfl, _⟩
        simp at clear
  · cases middle with
    | nil => exact ⟨List.append_nil _, (List.cons.inj tail).2.symm⟩
    | cons head rest =>
        rcases List.cons.inj tail with ⟨rfl, _⟩
        simp at free

/-- A separator starts the last field that does not contain it. -/
theorem eq_of_append_cons_eq_last {separator : Char} {first second behind after : List Char}
    (free : separator ∉ behind) (clear : separator ∉ after)
    (same : first ++ separator :: behind = second ++ separator :: after) :
    first = second ∧ behind = after := by
  have turned := congrArg List.reverse same
  simp only [List.reverse_append, List.reverse_cons, List.append_assoc, List.singleton_append]
    at turned
  rcases eq_of_append_cons_eq (by simpa using free) (by simpa using clear) turned with ⟨left, right⟩
  exact ⟨List.reverse_inj.mp right, List.reverse_inj.mp left⟩

namespace Totals

theorem toList_tableLabel (log2 : UInt64) :
    (tableLabel (some log2)).toList = Numeral.digits log2.toNat := by
  rw [tableLabel, Nat.toString_eq_repr, Nat.toList_repr, Numeral.digits]

/-- A hash table is named by digits or by a dash. -/
theorem not_mem_tableLabel (table : Option UInt64) {character : Char}
    (other : character.isDigit = false) (different : character ≠ '-') :
    character ∉ (tableLabel table).toList := by
  cases table with
  | none => exact fun member => different (List.mem_singleton.mp member)
  | some log2 =>
      rw [toList_tableLabel]
      intro member
      rw [Numeral.isDigit_of_mem_digits member] at other
      cases other

theorem tableLabel_injective : Function.Injective tableLabel := by
  intro first second same
  have texts := congrArg String.toList same
  have dash : ∀ log2, (tableLabel none).toList ≠ (tableLabel (some log2)).toList := by
    intro log2 equal
    have listed : '-' ∈ (tableLabel none).toList := List.mem_singleton_self '-'
    rw [equal, toList_tableLabel] at listed
    cases Numeral.isDigit_of_mem_digits listed
  cases first with
  | none =>
      cases second with
      | none => rfl
      | some log2 => exact absurd texts (dash log2)
  | some log2 =>
      cases second with
      | none => exact absurd texts.symm (dash log2)
      | some other =>
          rw [toList_tableLabel, toList_tableLabel] at texts
          have numbers := congrArg Numeral.value texts
          rw [Numeral.value_digits, Numeral.value_digits] at numbers
          rw [UInt64.toNat_inj.mp numbers]

/-- The two labels of a point determine it. -/
theorem pointLabel_injective : Function.Injective pointLabel := by
  intro first second same
  rcases first with ⟨bytes, log2⟩
  rcases second with ⟨others, other⟩
  rcases Prod.mk.inj same with ⟨history, table⟩
  cases Size.format_injective history
  cases tableLabel_injective table
  rfl

theorem eq_of_labels {first second : Point}
    (history : Size.write first.history = Size.write second.history)
    (table : (tableLabel first.hashTableLog2).toList = (tableLabel second.hashTableLog2).toList) :
    first = second :=
  pointLabel_injective (Prod.ext (congrArg String.ofList history) (String.toList_inj.mp table))

theorem toList_pointLine (point : Point) (sums : Sums) : ∃ rest : List Char,
    (pointLine point sums).toList = "TOTAL: hist ".toList ++ (Size.write point.history ++ ' ' ::
      ("ht_log2 ".toList ++ ((tableLabel point.hashTableLog2).toList ++ ':' :: rest))) := by
  let rest := s!" {sums.elapsed} {timeUnit}, " ++
    s!"{sums.input} -> {sums.output} bytes, ratio {Decimal.fixed 3 (ratio sums)}"
  have table : " ht_log2 ".toList = ' ' :: "ht_log2 ".toList := rfl
  have colon : ": ".toList = ':' :: " ".toList := rfl
  refine ⟨rest.toList, ?_⟩
  unfold pointLine pointLabel rest
  dsimp only [toString]
  simp only [String.toList_append, Size.format, String.toList_ofList, List.append_assoc, table,
    colon, List.cons_append]

theorem toList_recordLine (record : Record) : ∃ front : List Char,
    (recordLine record).toList =
      front ++ ' ' :: (Size.write record.point.history ++ ", ht_log2".toList) ++
        ' ' :: (tableLabel record.point.hashTableLog2).toList ++
        (if record.verified then [] else ' ' :: "MISMATCH".toList) := by
  let front := s!"Took {record.elapsed} {timeUnit}, produced {record.outputLength} bytes " ++
    s!"from {record.inputLength} bytes for {record.name}, hist"
  have history : ", hist ".toList = ", hist".toList ++ [' '] := rfl
  have table : ", ht_log2 ".toList = ", ht_log2".toList ++ [' '] := rfl
  have mark : (if record.verified = true then "" else " MISMATCH").toList =
      if record.verified = true then [] else ' ' :: "MISMATCH".toList := by
    split <;> rfl
  refine ⟨front.toList, ?_⟩
  unfold recordLine pointLabel front
  dsimp only [toString]
  simp only [String.toList_append, Size.format, String.toList_ofList, List.append_assoc, history,
    table, mark, List.cons_append, List.nil_append]

/-- The labels do not contain the blank that separates them. -/
theorem blank_not_mem (point : Point) :
    ' ' ∉ Size.write point.history ∧ ' ' ∉ (tableLabel point.hashTableLog2).toList := by
  refine ⟨fun member => ?_, not_mem_tableLabel _ (by decide) (by decide)⟩
  cases Size.isBlank_eq_false_of_mem_write member

theorem eq_of_pointLine_eq {first second : Point} {sums others : Sums}
    (same : pointLine first sums = pointLine second others) : first = second := by
  have lines := congrArg String.toList same
  have colon : ∀ table, ':' ∉ (tableLabel table).toList := fun table =>
    not_mem_tableLabel table (by decide) (by decide)
  rcases toList_pointLine first sums with ⟨rest, left⟩
  rcases toList_pointLine second others with ⟨after, right⟩
  rw [left, right, List.append_cancel_left_eq] at lines
  rcases eq_of_append_cons_eq (blank_not_mem first).1 (blank_not_mem second).1 lines with
    ⟨history, behind⟩
  rw [List.append_cancel_left_eq] at behind
  exact eq_of_labels history (eq_of_append_cons_eq (colon _) (colon _) behind).1

/-- Labels behind anything are found from the end. -/
theorem eq_of_labels_last {first second : Point} {front fore : List Char}
    (same : front ++ ' ' :: (Size.write first.history ++ ", ht_log2".toList) ++
        ' ' :: (tableLabel first.hashTableLog2).toList =
      fore ++ ' ' :: (Size.write second.history ++ ", ht_log2".toList) ++
        ' ' :: (tableLabel second.hashTableLog2).toList) : first = second := by
  rcases eq_of_append_cons_eq_last (blank_not_mem first).2 (blank_not_mem second).2 same with
    ⟨before, table⟩
  simp only [← List.cons_append, ← List.append_assoc, List.append_cancel_right_eq] at before
  have history :=
    eq_of_append_cons_eq_last (blank_not_mem first).1 (blank_not_mem second).1 before
  exact eq_of_labels history.2 table

theorem tableLabel_ne_mark (table : Option UInt64) :
    (tableLabel table).toList ≠ "MISMATCH".toList := by
  intro equal
  have letter : 'M' ∈ (tableLabel table).toList := equal ▸ List.mem_cons_self
  exact not_mem_tableLabel table (by decide) (by decide) letter

/-- The line of a record is read from its end, as the name of an input may contain anything.
Only a line with a mark has a last word that is no table. -/
theorem point_eq_of_recordLine_eq {first second : Record}
    (same : recordLine first = recordLine second) : first.point = second.point := by
  have lines := congrArg String.toList same
  have mark : ' ' ∉ "MISMATCH".toList := by decide
  rcases toList_recordLine first with ⟨front, left⟩
  rcases toList_recordLine second with ⟨fore, right⟩
  rw [left, right] at lines
  cases passed : first.verified <;> cases other : second.verified <;>
    simp only [passed, other, Bool.false_eq_true, if_true, if_false, List.append_nil] at lines
  · exact eq_of_labels_last (eq_of_append_cons_eq_last mark mark lines).1
  · have last := eq_of_append_cons_eq_last mark (blank_not_mem second.point).2 lines
    exact absurd last.2.symm (tableLabel_ne_mark _)
  · have last := eq_of_append_cons_eq_last (blank_not_mem first.point).2 mark lines
    exact absurd last.2 (tableLabel_ne_mark _)
  · exact eq_of_labels_last lines

/-- What a report prints of a size is read back as that size, and its lines about two points
are never the same. -/
theorem identifies_points :
    (∀ bytes, Size.parse (Size.format bytes) = .ok bytes) ∧
    Function.Injective Size.format ∧
    Function.Injective pointLabel ∧
    (∀ (first second : Point) (sums others : Sums),
      pointLine first sums = pointLine second others → first = second) ∧
    ∀ first second : Record, recordLine first = recordLine second → first.point = second.point := by
  refine ⟨Size.parse_format, Size.format_injective, pointLabel_injective, ?_, ?_⟩
  · intro first second sums others same
    exact eq_of_pointLine_eq same
  · intro first second same
    exact point_eq_of_recordLine_eq same

end Totals

end RoccCodec
