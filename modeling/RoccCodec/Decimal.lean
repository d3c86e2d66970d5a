import RoccCodec.Numeral

namespace RoccCodec

/-!
# Decimals with fixed places

A double is an exact fraction.  Writing it with fixed places rounds once, and a
value halfway between two decimals goes to the even one.  Only finite values
that are not negative are covered.
-/

namespace Decimal

/-- The whole number nearest to a fraction; of two equally near the even one. -/
def roundDiv (numerator denominator : Nat) : Nat :=
  let quotient := numerator / denominator
  let twice := 2 * (numerator % denominator)
  if twice < denominator ∨ (twice = denominator ∧ quotient % 2 = 0) then quotient
  else quotient + 1

/-- The numerator and the denominator of a double, from its bits. -/
def fraction (bits : UInt64) : Nat × Nat :=
  let exponent := (bits >>> 52 &&& 0x7FF).toNat
  let mantissa := (bits &&& 0xFFFFFFFFFFFFF).toNat
  if exponent = 0 then (mantissa, 1 <<< 1074)
  else if exponent < 1075 then (0x10000000000000 + mantissa, 1 <<< (1075 - exponent))
  else ((0x10000000000000 + mantissa) <<< (exponent - 1075), 1)

/-- How many units of the last of some places make one whole. -/
def scale : Nat → Nat
  | 0 => 1
  | places + 1 => 10 * scale places

/-- A number of units of the last of some places, written with a point. -/
def write (places units : Nat) : List Char :=
  let fractional := Numeral.digits (units % scale places)
  Numeral.digits (units / scale places) ++ '.' ::
    (List.replicate (places - fractional.length) '0' ++ fractional)

/-- A double with fixed places. -/
def fixed (places : Nat) (number : Float) : String :=
  let (numerator, denominator) := fraction number.toBits
  String.ofList (write places (roundDiv (numerator * scale places) denominator))

/-- The quotient of two numbers of 64 bits, each taken to the nearest double. -/
def quotient (numerator denominator : Nat) : Float :=
  (UInt64.ofNat numerator).toFloat / (UInt64.ofNat denominator).toFloat

end Decimal

end RoccCodec
