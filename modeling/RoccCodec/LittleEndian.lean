namespace RoccCodec.LittleEndian

/-!
# Little-endian numbers

`ofBytes` reads any list of bytes, lowest byte first; `toBytes` writes a fixed
count of them and drops what does not fit.
-/

/-- The lowest `count` bytes of a number. -/
def toBytes (count : Nat) (value : Nat) : List UInt8 :=
  match count with
  | 0 => []
  | count + 1 => UInt8.ofNat value :: toBytes count (value / 256)

/-- The number these bytes stand for. -/
def ofBytes : List UInt8 → Nat
  | [] => 0
  | byte :: rest => byte.toNat + 256 * ofBytes rest

/-- The first number that needs more bytes than `count`. -/
def range : Nat → Nat
  | 0 => 1
  | count + 1 => 256 * range count

@[simp] theorem length_toBytes (count value : Nat) : (toBytes count value).length = count := by
  induction count generalizing value with
  | zero => rfl
  | succ count hypothesis => simp [toBytes, hypothesis]

theorem ofBytes_lt (bytes : List UInt8) : ofBytes bytes < range bytes.length := by
  induction bytes with
  | nil => simp [ofBytes, range]
  | cons byte rest hypothesis =>
    have small : byte.toNat < 256 := byte.toNat_lt
    simp only [ofBytes, List.length_cons, range]
    omega

theorem ofBytes_toBytes (count value : Nat) :
    ofBytes (toBytes count value) = value % range count := by
  induction count generalizing value with
  | zero => simp [toBytes, ofBytes, range, Nat.mod_one]
  | succ count hypothesis =>
    rw [toBytes, ofBytes, hypothesis, range, Nat.mod_mul]
    simp [UInt8.toNat_ofNat']

theorem toBytes_ofBytes (bytes : List UInt8) : toBytes bytes.length (ofBytes bytes) = bytes := by
  induction bytes with
  | nil => rfl
  | cons byte rest hypothesis =>
    have small : byte.toNat < 256 := byte.toNat_lt
    have low : UInt8.ofNat (byte.toNat + 256 * ofBytes rest) = byte := by
      apply UInt8.toNat_inj.mp
      rw [UInt8.toNat_ofNat']
      omega
    have high : (byte.toNat + 256 * ofBytes rest) / 256 = ofBytes rest := by omega
    simp [toBytes, ofBytes, low, high, hypothesis]

/-- The number in the first `count` bytes, if there are as many. -/
def read? (count : Nat) (bytes : List UInt8) : Option Nat :=
  let field := bytes.take count
  if field.length = count then some (ofBytes field) else none

theorem read?_toBytes_append (count value : Nat) (rest : List UInt8) :
    read? count (toBytes count value ++ rest) = some (value % range count) := by
  have field : (toBytes count value ++ rest).take count = toBytes count value := by
    rw [List.take_append_of_le_length (by simp), List.take_of_length_le (by simp)]
  simp [read?, field, ofBytes_toBytes]

theorem read?_eq_none_iff {count : Nat} {bytes : List UInt8} :
    read? count bytes = none ↔ bytes.length < count := by
  simp only [read?, List.length_take]
  split
  · simp only [reduceCtorEq, false_iff]
    omega
  · simp only [true_iff]
    omega

end RoccCodec.LittleEndian
