import RoccCodec.Length
import RoccCodec.Numeral
import RoccCodec.Text.Quoted

namespace RoccCodec

/-!
# Byte sizes

A size is a numeral with at most one binary suffix, as in `64K`; blanks around
it do not matter.  `Size.write` gives the form that is printed, in which a count
keeps the largest suffix that divides it.
-/

/-- Why a text is no size.  Each refusal of a malformed text says where the
text stopped making sense. -/
inductive SizeError where
  | noDigit (rest : List Char)
  | longNumeral (rest : List Char)
  | leftover (rest : List Char)
  | tooLarge
  deriving DecidableEq, Repr

namespace SizeError

/-- The report on a malformed text. -/
def malformed (text : String) (rest : List Char) (expected : String) : String :=
  s!"invalid size `{text}`: Parsing Error: Error \x7b input: {String.ofList (Text.quote rest)}, " ++
    s!"code: {expected} \x7d"

def message (text : String) : SizeError → String
  | .noDigit rest => malformed text rest "Digit"
  | .longNumeral rest => malformed text rest "MapRes"
  | .leftover rest => malformed text rest "Eof"
  | .tooLarge => s!"size `{text}` does not fit in 64 bits"

end SizeError

namespace Size

def kilo : Nat := 1024

def mega : Nat := 1024 * kilo

def giga : Nat := 1024 * mega

/-- The bytes a suffix makes of every one it is counted in. -/
def unit? : Char → Option Nat
  | 'k' | 'K' => some kilo
  | 'm' | 'M' => some mega
  | 'g' | 'G' => some giga
  | _ => none

/-- The unit of the suffix in front, or one byte, and what follows. -/
def takeSuffix : List Char → Nat × List Char
  | [] => (1, [])
  | first :: rest =>
    match unit? first with
    | some unit => (unit, rest)
    | none => (1, first :: rest)

/-- Read a size that stands alone in a text. -/
def read (text : List Char) : Except SizeError UInt64 :=
  let body := Text.trim text
  match Numeral.natural? (body.takeWhile Char.isDigit) with
  | none => .error (.noDigit body)
  | some count =>
    if count < Length.limit then
      match takeSuffix (body.dropWhile Char.isDigit) with
      | (unit, []) =>
        if count * unit < Length.limit then .ok (UInt64.ofNat (count * unit))
        else .error .tooLarge
      | (_, rest) => .error (.leftover rest)
    else .error (.longNumeral body)

/-- The size of a text, or the report on why it has none. -/
def parse (text : String) : Except String UInt64 :=
  (read text.toList).mapError fun error => error.message text

/-- The form in which a size is printed. -/
def write (bytes : UInt64) : List Char :=
  let count := bytes.toNat
  if count = 0 then ['0']
  else if count % giga = 0 then Numeral.digits (count / giga) ++ ['G']
  else if count % mega = 0 then Numeral.digits (count / mega) ++ ['M']
  else if count % kilo = 0 then Numeral.digits (count / kilo) ++ ['K']
  else Numeral.digits count

def format (bytes : UInt64) : String := String.ofList (write bytes)

theorem takeSuffix_of_unit? {first : Char} {unit : Nat} (known : unit? first = some unit)
    (rest : List Char) : takeSuffix (first :: rest) = (unit, rest) := by
  simp [takeSuffix, known]

end Size

end RoccCodec
