import RoccCodec.Length

namespace RoccCodec

/-!
# Decimal numerals

A numeral is a nonempty run of ASCII digits.  Numbers of a fixed size may carry
a sign and are refused outside their range.
-/

namespace Numeral

/-- The value of a run of digits. -/
def value (digits : List Char) : Nat := Nat.ofDigitChars 10 digits 0

/-- The digits of a number, without leading zeros. -/
def digits (number : Nat) : List Char := Nat.toDigits 10 number

/-- A numeral and nothing else. -/
def natural? (text : List Char) : Option Nat :=
  if text ≠ [] ∧ text.all Char.isDigit then some (value text) else none

/-- A number of 64 bits; a plus may stand in front. -/
def word? (text : List Char) : Option UInt64 := do
  let number ← match text with
    | '+' :: rest => natural? rest
    | _ => natural? text
  if number < Length.limit then some (UInt64.ofNat number) else none

def signed? (text : List Char) : Option Int32 := do
  let number ← match text with
    | '-' :: rest => (natural? rest).map fun number => -(number : Int)
    | '+' :: rest => (natural? rest).map fun number => (number : Int)
    | _ => (natural? text).map fun number => (number : Int)
  if -0x80000000 ≤ number ∧ number < 0x80000000 then some (Int32.ofInt number) else none

@[simp] theorem value_digits (number : Nat) : value (digits number) = number :=
  Nat.ofDigitChars_toDigits (by decide) (by decide)

theorem digits_ne_nil (number : Nat) : digits number ≠ [] := Nat.toDigits_ne_nil

theorem isDigit_of_mem_digits {number : Nat} {character : Char}
    (member : character ∈ digits number) : character.isDigit = true :=
  Nat.isDigit_of_mem_toDigits (by decide) (by decide) member

theorem natural?_eq_some_iff {text : List Char} {number : Nat} :
    natural? text = some number ↔
      text ≠ [] ∧ (∀ character ∈ text, character.isDigit = true) ∧ value text = number := by
  unfold natural?
  split
  · rename_i run
    simp only [List.all_eq_true] at run
    rw [Option.some.injEq]
    exact ⟨fun same => ⟨run.1, run.2, same⟩, fun parts => parts.2.2⟩
  · rename_i other
    simp only [List.all_eq_true] at other
    simp only [reduceCtorEq, false_iff]
    intro parts
    exact other ⟨parts.1, parts.2.1⟩

end Numeral

end RoccCodec
