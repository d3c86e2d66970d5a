namespace RoccCodec.Text

/-!
# Blanks

The blanks are the characters with the Unicode property White_Space.  Trimming
takes the blanks away from both ends of a text and leaves those within it.
-/

/-- The runs of blanks, each by its first and its last code point. -/
def blanks : List (Nat × Nat) := [
  (0x0009, 0x000D), (0x0020, 0x0020), (0x0085, 0x0085), (0x00A0, 0x00A0), (0x1680, 0x1680),
  (0x2000, 0x200A), (0x2028, 0x2029), (0x202F, 0x202F), (0x205F, 0x205F), (0x3000, 0x3000)]

/-- The character lies in one of these runs of code points. -/
def within (runs : List (Nat × Nat)) (character : Char) : Bool :=
  runs.any fun run => decide (run.1 ≤ character.toNat) && decide (character.toNat ≤ run.2)

def isBlank (character : Char) : Bool := within blanks character

def trimEnd (text : List Char) : List Char := (text.reverse.dropWhile isBlank).reverse

/-- The text without the blanks at its ends. -/
def trim (text : List Char) : List Char := trimEnd (text.dropWhile isBlank)

theorem isBlank_eq_false_of_isDigit {character : Char} (digit : character.isDigit = true) :
    isBlank character = false := by
  simp only [Char.isDigit, Bool.and_eq_true, decide_eq_true_eq, ge_iff_le,
    UInt32.le_iff_toNat_le] at digit
  have range : 48 ≤ character.toNat ∧ character.toNat ≤ 57 := digit
  simp only [isBlank, within, blanks, List.any_cons, List.any_nil, Bool.or_false,
    Bool.or_eq_false_iff, Bool.and_eq_false_iff, decide_eq_false_iff_not]
  omega

/-- Trimming takes blanks away and nothing else. -/
theorem exists_blanks_trim (text : List Char) :
    ∃ before after : List Char, text = before ++ trim text ++ after ∧
      (∀ character ∈ before, isBlank character = true) ∧
      (∀ character ∈ after, isBlank character = true) := by
  refine ⟨text.takeWhile isBlank,
    ((text.dropWhile isBlank).reverse.takeWhile isBlank).reverse, ?_, ?_, ?_⟩
  · have ending : (text.dropWhile isBlank) = trim text ++
        ((text.dropWhile isBlank).reverse.takeWhile isBlank).reverse := by
      unfold trim trimEnd
      rw [← List.reverse_append, List.takeWhile_append_dropWhile, List.reverse_reverse]
    rw [List.append_assoc, ← ending, List.takeWhile_append_dropWhile]
  · intro character member
    exact List.all_eq_true.mp List.all_takeWhile character member
  · intro character member
    exact List.all_eq_true.mp List.all_takeWhile character (List.mem_reverse.mp member)

end RoccCodec.Text
