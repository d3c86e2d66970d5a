namespace RoccCodec.Varint

/-!
# Numbers in groups of seven bits

Base-128 digits, lowest first, one to a byte; every byte but the last has its
highest bit set.  Reading does not insist on the shortest form.
-/

/-- The first number that needs more groups than `groups`. -/
def range : Nat → Nat
  | 0 => 1
  | groups + 1 => 128 * range groups

/-- The shortest form of a number. -/
def write (value : Nat) : List UInt8 :=
  if value < 128 then [UInt8.ofNat value]
  else UInt8.ofNat (value % 128 + 128) :: write (value / 128)
termination_by value
decreasing_by omega

/-- The number at the head of the bytes and what follows it, if it ends within
the given count of groups. -/
def read? : Nat → List UInt8 → Option (Nat × List UInt8)
  | 0, _ => none
  | _ + 1, [] => none
  | groups + 1, byte :: rest =>
    if byte.toNat < 128 then some (byte.toNat, rest)
    else (read? groups rest).map fun (high, rest) => (byte.toNat - 128 + 128 * high, rest)

/-- A number of at most `groups` groups is read back, whatever follows it. -/
theorem read?_write_append {groups value : Nat} (positive : 0 < groups)
    (fits : value < range groups) (rest : List UInt8) :
    read? groups (write value ++ rest) = some (value, rest) := by
  induction groups generalizing value with
  | zero => omega
  | succ groups hypothesis =>
    rw [write]
    split
    · rename_i small
      have digit : (UInt8.ofNat value).toNat = value := by
        rw [UInt8.toNat_ofNat']
        omega
      simp [read?, digit, small]
    · rename_i large
      have digit : (UInt8.ofNat (value % 128 + 128)).toNat = value % 128 + 128 := by
        rw [UInt8.toNat_ofNat']
        omega
      rw [range] at fits
      have more : 0 < groups := by
        cases groups with
        | zero =>
          rw [range] at fits
          omega
        | succ _ => omega
      have tail := @hypothesis (value / 128) more (by omega)
      simp only [List.cons_append, read?, digit, tail, Option.map_some]
      rw [if_neg (by omega)]
      congr 2
      omega

/-- A number of at most `groups` groups takes no more bytes. -/
theorem length_write_le {groups value : Nat} (positive : 0 < groups)
    (fits : value < range groups) : (write value).length ≤ groups := by
  induction groups generalizing value with
  | zero => omega
  | succ groups hypothesis =>
    rw [write]
    split
    · simp
    · rename_i large
      rw [range] at fits
      have more : 0 < groups := by
        cases groups with
        | zero =>
          rw [range] at fits
          omega
        | succ _ => omega
      have tail := @hypothesis (value / 128) more (by omega)
      simp only [List.length_cons]
      omega

end RoccCodec.Varint
