import Reckon.Decimal.Binary

/-!
Rounding exact rationals to binary64, and the exact integer a double holds.

`nearestFloat` rounds `num / den` to the nearest double, ties to even, by exact
integer division: the binary exponent is found from bit lengths and corrected
by one comparison, the significand is a rounded quotient, and a carry into the
next binade or past the largest exponent is handled explicitly. `floatOfInt`
is the same rounding for integers. `Float.exactInt?` reads the integer that a
finite, integral double stands for, from its bits.
-/

namespace Reckon.Decimal

/-- The floor of `log₂ (num / den)`, for positive `num` and `den`. -/
def binaryExponent (num den : Nat) : Int :=
  let estimate : Int := (num.log2 : Int) - (den.log2 : Int)
  -- the estimate is the true exponent or one above it
  let atLeast := if estimate ≥ 0 then Nat.pow 2 estimate.toNat * den ≤ num
    else den ≤ num * Nat.pow 2 (-estimate).toNat
  if atLeast then estimate else estimate - 1

/-- The quotient `num / (den * 2^shift)` rounded to the nearest natural, ties to even. -/
def roundQuotient (num den : Nat) (shift : Int) : Nat :=
  let n := num * Nat.pow 2 (-shift).toNat
  let d := den * Nat.pow 2 shift.toNat
  let q := n / d
  let r := n % d
  if 2 * r > d || (2 * r == d && q % 2 == 1) then q + 1 else q

/-- The double with the given sign whose magnitude is nearest to
`num / den`, ties to even; `inf` past the largest finite double. -/
def nearestFloat (negative : Bool) (num den : Nat) : Float :=
  let sign : UInt64 := if negative then 0x8000000000000000 else 0
  let magnitude : UInt64 :=
    if num = 0 then 0
    else
      let b := binaryExponent num den
      if b < -1022 then
        -- subnormal range: the significand counts units of 2^-1074
        (roundQuotient num den (-1074)).toUInt64
      else
        let m := roundQuotient num den (b - 52)
        -- rounding may carry into the next binade
        let (m, b) := if m = Nat.pow 2 53 then (Nat.pow 2 52, b + 1) else (m, b)
        if b > 1023 then 0x7FF0000000000000
        else ((b + 1023).toNat.toUInt64 <<< 52) ||| (m - Nat.pow 2 52).toUInt64
  Float.ofBits (sign ||| magnitude)

/-- The double nearest to an integer, ties to even. -/
def floatOfInt (n : Int) : Float :=
  nearestFloat (n < 0) n.natAbs 1

/-- Whether the sign bit of a double is set. -/
def signBit (x : Float) : Bool :=
  x.toBits >>> 63 == 1

/-- The integer a double stands for, if it is finite and has no fraction. -/
def exactInt? (x : Float) : Option Int :=
  let bits := x.toBits
  if exponentField bits == 0x7FF then none
  else
    let b := Binary.ofBits bits
    let magnitude? : Option Nat :=
      if b.q ≥ 0 then some (b.m * Nat.pow 2 b.q.toNat)
      else if b.m % Nat.pow 2 (-b.q).toNat == 0 then some (b.m / Nat.pow 2 (-b.q).toNat)
      else none
    magnitude?.map fun magnitude => if signBit x then -(magnitude : Int) else magnitude

end Reckon.Decimal
