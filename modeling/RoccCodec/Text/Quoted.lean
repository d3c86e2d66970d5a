import RoccCodec.Text.Blank
import RoccCodec.Text.Mark
import RoccCodec.Text.Unassigned

namespace RoccCodec.Text

/-!
# Quoted texts

The quote, the backslash and the common line controls have a short escape.  What
a reader could not see on its own (controls, formats, separators, fillers,
marks, private and unassigned code points) is written as its code point.
-/

/-- The runs of controls, formats, separators other than the space, fillers and
private characters, each by its first and its last code point. -/
def unseen : List (Nat × Nat) := [
  (0x0000, 0x001F), (0x007F, 0x00A0), (0x00AD, 0x00AD), (0x0600, 0x0605), (0x061C, 0x061C),
  (0x06DD, 0x06DD), (0x070F, 0x070F), (0x0890, 0x0891), (0x08E2, 0x08E2), (0x115F, 0x1160),
  (0x1680, 0x1680), (0x180E, 0x180E), (0x2000, 0x200B), (0x200D, 0x200F), (0x2028, 0x202F),
  (0x205F, 0x206F), (0x3000, 0x3000), (0x3164, 0x3164), (0xE000, 0xF8FF), (0xFEFF, 0xFEFF),
  (0xFFA0, 0xFFA0), (0xFFF9, 0xFFFB), (0x110BD, 0x110BD), (0x110CD, 0x110CD), (0x13430, 0x1343F),
  (0x1BCA0, 0x1BCA3), (0x1D173, 0x1D17A), (0xE0001, 0xE0001), (0xF0000, 0x10FFFD)]

/-- The character shows by itself where it stands. -/
def isPlain (character : Char) : Bool :=
  !(within unseen character || within marks character || within unassigned character)

/-- A character as it stands in a quoted text. -/
def escape (character : Char) : List Char :=
  match character with
  | '\x00' => ['\\', '0']
  | '\t' => ['\\', 't']
  | '\n' => ['\\', 'n']
  | '\r' => ['\\', 'r']
  | '"' => ['\\', '"']
  | '\\' => ['\\', '\\']
  | other =>
    if isPlain other then [other]
    else ['\\', 'u', '\x7b'] ++ Nat.toDigits 16 other.toNat ++ ['\x7d']

/-- The text between quotes. -/
def quote (text : List Char) : List Char := '"' :: (text.flatMap escape ++ ['"'])

end RoccCodec.Text
