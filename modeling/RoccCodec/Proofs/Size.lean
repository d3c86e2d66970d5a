import Mathlib.Algebra.Ring.Nat
import Mathlib.Data.List.TakeWhile
import RoccCodec.Size

namespace RoccCodec

/-!
# The spelling of a size

A size is spelled with blanks around it, digits in front and at most one letter behind them
(`Size.Spelling`).  The digits may start with zeros, and there may be any number of them.
`Size.read_text` says what is made of a spelling: it has a size if the number of its digits
has 64 bits and the size itself has.  Nothing else is read as a size
(`Size.exists_spelling`).
-/

/-- The blanks around a text are what trimming takes away. -/
theorem Text.trim_append {before body after : List Char} (filled : body ≠ [])
    (front : ∀ character ∈ before, isBlank character = true)
    (inside : ∀ character ∈ body, isBlank character = false)
    (back : ∀ character ∈ after, isBlank character = true) :
    trim (before ++ body ++ after) = body := by
  have stops : ∀ {text rest : List Char}, text ≠ [] →
      (∀ character ∈ text, isBlank character = false) →
      (text ++ rest).dropWhile isBlank = text ++ rest := by
    intro text rest filled inside
    cases text with
    | nil => exact absurd rfl filled
    | cons head tail => simp [inside head List.mem_cons_self]
  have turned : body.reverse.dropWhile isBlank = body.reverse := by
    have alone := @stops body.reverse [] (by simpa using filled) (by simpa using inside)
    rwa [List.append_nil] at alone
  rw [trim, trimEnd, List.append_assoc, List.dropWhile_append_of_pos front, stops filled inside,
    List.reverse_append, List.dropWhile_append_of_pos (by simpa using back), turned,
    List.reverse_reverse]

namespace Size

/-- The letters that may end a size, each with the unit that it counts in. -/
def letters : List (Char × Nat) :=
  [('k', 2 ^ 10), ('K', 2 ^ 10), ('m', 2 ^ 20), ('M', 2 ^ 20), ('g', 2 ^ 30), ('G', 2 ^ 30)]

theorem unit?_eq_some_iff {letter : Char} {unit : Nat} :
    unit? letter = some unit ↔ (letter, unit) ∈ letters := by
  unfold unit?
  split <;> simp_all [letters, kilo, mega, giga, eq_comm]

/-- A text that stands for a size.  The letter behind the digits comes with its
unit. -/
structure Spelling where
  before : List Char
  digits : List Char
  suffix : Option (Char × Nat)
  after : List Char
  blank_before : ∀ character ∈ before, Text.isBlank character = true
  filled : digits ≠ []
  decimal : ∀ character ∈ digits, character.isDigit = true
  known : ∀ entry ∈ suffix, entry ∈ letters
  blank_after : ∀ character ∈ after, Text.isBlank character = true

namespace Spelling

def body (spelling : Spelling) : List Char :=
  spelling.digits ++ (spelling.suffix.map Prod.fst).toList

def text (spelling : Spelling) : List Char := spelling.before ++ spelling.body ++ spelling.after

def count (spelling : Spelling) : Nat := Numeral.value spelling.digits

/-- The bytes that the number counts in. -/
def unit (spelling : Spelling) : Nat := (spelling.suffix.map Prod.snd).getD 1

/-- The size that is spelled, whether or not it has 64 bits. -/
def size (spelling : Spelling) : Nat := spelling.count * spelling.unit

end Spelling

theorem not_digit_not_blank_of_mem_letters {letter : Char} {unit : Nat}
    (listed : (letter, unit) ∈ letters) :
    letter.isDigit = false ∧ Text.isBlank letter = false := by
  have all : ∀ entry ∈ letters, entry.1.isDigit = false ∧ Text.isBlank entry.1 = false := by
    decide
  exact all _ listed

/-- At most one letter is taken off the front. -/
theorem takeSuffix_eq_nil_iff {text : List Char} {unit : Nat} :
    takeSuffix text = (unit, []) ↔
      ∃ suffix : Option (Char × Nat), (∀ entry ∈ suffix, entry ∈ letters) ∧
        text = (suffix.map Prod.fst).toList ∧ unit = (suffix.map Prod.snd).getD 1 := by
  constructor
  · intro taken
    cases text with
    | nil =>
        cases taken
        exact ⟨none, by simp, rfl, rfl⟩
    | cons letter rest =>
        cases found : unit? letter with
        | none => simp [takeSuffix, found] at taken
        | some factor =>
            rw [takeSuffix_of_unit? found] at taken
            cases taken
            exact ⟨some (letter, unit), by simpa using unit?_eq_some_iff.mp found, rfl, rfl⟩
  · rintro ⟨suffix, known, rfl, rfl⟩
    cases suffix with
    | none => rfl
    | some entry => exact takeSuffix_of_unit? (unit?_eq_some_iff.mpr (known entry rfl)) []

namespace Spelling

variable (spelling : Spelling)

/-- The digits end where the letter stands. -/
theorem digits_body : spelling.body.takeWhile Char.isDigit = spelling.digits ∧
    spelling.body.dropWhile Char.isDigit = (spelling.suffix.map Prod.fst).toList := by
  have other : ∀ character ∈ (spelling.suffix.map Prod.fst).toList, character.isDigit = false := by
    intro character member
    rcases Option.map_eq_some_iff.mp (Option.mem_toList.mp member) with ⟨entry, listed, rfl⟩
    exact (not_digit_not_blank_of_mem_letters (spelling.known entry listed)).1
  unfold body
  rw [List.takeWhile_append_of_pos spelling.decimal, List.dropWhile_append_of_pos spelling.decimal]
  cases suffix : (spelling.suffix.map Prod.fst).toList with
  | nil => simp
  | cons letter rest =>
      have stops := other letter (by simp [suffix])
      simp [stops]

theorem isBlank_eq_false_of_mem_body {character : Char} (member : character ∈ spelling.body) :
    Text.isBlank character = false := by
  rcases List.mem_append.mp member with digit | letter
  · exact Text.isBlank_eq_false_of_isDigit (spelling.decimal character digit)
  · rcases Option.map_eq_some_iff.mp (Option.mem_toList.mp letter) with ⟨entry, listed, rfl⟩
    exact (not_digit_not_blank_of_mem_letters (spelling.known entry listed)).2

theorem trim_text : Text.trim spelling.text = spelling.body := by
  apply Text.trim_append
  · simp [body, spelling.filled]
  · exact spelling.blank_before
  · exact fun _ => spelling.isBlank_eq_false_of_mem_body
  · exact spelling.blank_after

end Spelling

/-- A spelling is read as its size, unless the number of its digits or the size is too large. -/
theorem read_text (spelling : Spelling) :
    read spelling.text =
      if spelling.count < Length.limit then
        if spelling.size < Length.limit then .ok (UInt64.ofNat spelling.size) else .error .tooLarge
      else .error (.longNumeral spelling.body) := by
  have number : Numeral.natural? spelling.digits = some spelling.count :=
    Numeral.natural?_eq_some_iff.mpr ⟨spelling.filled, spelling.decimal, rfl⟩
  have suffix : takeSuffix (spelling.suffix.map Prod.fst).toList = (spelling.unit, []) :=
    takeSuffix_eq_nil_iff.mpr ⟨spelling.suffix, spelling.known, rfl, rfl⟩
  unfold read
  simp only [spelling.trim_text, spelling.digits_body, number, suffix]
  rfl

/-- What is read as a size is a spelling. -/
theorem exists_spelling {text : List Char} {bytes : UInt64} (found : read text = .ok bytes) :
    ∃ spelling : Spelling, spelling.text = text := by
  unfold read at found
  dsimp only at found
  split at found
  · cases found
  · rename_i count numeral
    split at found
    · split at found
      · rename_i unit suffixed
        rcases Text.exists_blanks_trim text with ⟨before, after, whole, front, back⟩
        rcases takeSuffix_eq_nil_iff.mp suffixed with ⟨suffix, known, rest, _⟩
        rcases Numeral.natural?_eq_some_iff.mp numeral with ⟨filled, decimal, _⟩
        refine ⟨⟨before, _, suffix, after, front, filled, decimal, known, back⟩, ?_⟩
        unfold Spelling.text Spelling.body
        dsimp only
        rw [← rest, List.takeWhile_append_dropWhile, ← whole]
      · cases found
    · cases found

theorem parse_eq_ok_iff {text : String} {bytes : UInt64} :
    parse text = .ok bytes ↔ read text.toList = .ok bytes := by
  unfold parse
  cases read text.toList <;> simp [Except.mapError]

/-- A text is read as a size if and only if it spells this size, the number of its digits has
64 bits, and the size has.  Any other text is refused with a report. -/
theorem parses_spellings (text : String) :
    (∀ size : Nat, (∃ bytes : UInt64, parse text = .ok bytes ∧ bytes.toNat = size) ↔
      ∃ spelling : Spelling, spelling.text = text.toList ∧ spelling.count < 2 ^ 64 ∧
        size = spelling.count * spelling.unit ∧ size < 2 ^ 64) ∧
    ((∃ bytes : UInt64, parse text = .ok bytes) ∨
      ∃ error : SizeError, parse text = .error (error.message text)) := by
  refine ⟨fun size => ⟨?_, ?_⟩, ?_⟩
  · rintro ⟨bytes, found, rfl⟩
    rw [parse_eq_ok_iff] at found
    rcases exists_spelling found with ⟨spelling, same⟩
    rw [← same, read_text] at found
    split at found
    · rename_i short
      split at found
      · rename_i fits
        cases found
        exact ⟨spelling, same, short, UInt64.toNat_ofNat_of_lt' fits, UInt64.toNat_lt _⟩
      · cases found
    · cases found
  · rintro ⟨spelling, same, short, rfl, fits⟩
    refine ⟨UInt64.ofNat spelling.size, ?_, UInt64.toNat_ofNat_of_lt' fits⟩
    rw [parse_eq_ok_iff, ← same, read_text]
    exact (if_pos short).trans (if_pos fits)
  · unfold parse
    cases read text.toList with
    | ok bytes => exact .inl ⟨bytes, rfl⟩
    | error error => exact .inr ⟨error, rfl⟩

example : parse " 002m " = .ok 0x200000 := by decide

end Size

end RoccCodec
