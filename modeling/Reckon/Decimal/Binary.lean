/-!
Finite binary64 values as exact naturals, and decimals as digits times a power
of ten.

`Binary` is the value `m * 2^q` that a finite, non-negative double stands for,
decoded from its bits; `Scaled` is `digits * 10^exponent`. Both sides of a
conversion between decimal text and doubles are stated over these two records
and compared by cross-multiplying naturals, so no step rounds.
-/

namespace Reckon.Decimal

/-- A finite non-negative binary64 value `m * 2^q`. -/
structure Binary where
  m : Nat
  q : Int
  /-- The gap to the value below is half the gap to the value above: `m` is
  the smallest normal significand and the value is not the least normal one. -/
  narrowBelow : Bool
deriving DecidableEq, Repr

/-- A decimal `digits * 10^exponent`. -/
structure Scaled where
  digits : Nat
  exponent : Int
deriving DecidableEq, Repr

/-- The biased exponent field of a double. -/
def exponentField (bits : UInt64) : Nat :=
  ((bits >>> 52) &&& 0x7FF).toNat

/-- The fraction field of a double. -/
def fractionField (bits : UInt64) : Nat :=
  (bits &&& 0xFFFFFFFFFFFFF).toNat

/-- The magnitude of a finite double. Subnormals have the fixed scale `2^-1074`. -/
def Binary.ofBits (bits : UInt64) : Binary :=
  let e := exponentField bits
  let f := fractionField bits
  if e == 0 then ⟨f, -1074, false⟩
  else ⟨Nat.pow 2 52 + f, (e : Int) - 1075, f == 0 && e > 1⟩

/-- Compare `a * 10^i` with `n * 2^j`, exactly. -/
def compareScaled (a : Nat) (i : Int) (n : Nat) (j : Int) : Ordering :=
  compare (a * Nat.pow 10 i.toNat * Nat.pow 2 (-j).toNat)
    (n * Nat.pow 2 j.toNat * Nat.pow 10 (-i).toNat)

/-- Whether the decimal lies among the reals that round to `x` under
round-to-nearest, ties to even: from halfway to the value below through halfway
to the value above, with both ends included exactly when `m` is even. -/
def Binary.readsBack (x : Binary) (d : Scaled) : Bool :=
  let below := if x.narrowBelow then 4 * x.m - 1 else 4 * x.m - 2
  let above := 4 * x.m + 2
  let inclusive := x.m % 2 == 0
  let low := compareScaled d.digits d.exponent below (x.q - 2)
  let high := compareScaled d.digits d.exponent above (x.q - 2)
  (low == .gt || (inclusive && low == .eq)) && (high == .lt || (inclusive && high == .eq))

/-- The number of decimal digits of a natural; zero has one. -/
def digitCount (n : Nat) : Nat :=
  (Nat.toDigits 10 n).length

end Reckon.Decimal
