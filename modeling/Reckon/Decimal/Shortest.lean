import Reckon.Decimal.Binary

/-!
Shortest decimals: for a finite positive double, the decimal with the fewest
significant digits that reads back to it, and of two such the nearer one, the
upper one on an exact tie.

The search is the specification turned into a loop. With `10^k` the least power
of ten above the value, the grid of `n` digits is `10^(k - n)`; the value's two
neighbours on that grid are its floor and the next point. The first `n` whose
neighbours include a decimal that `readsBack` wins. Seventeen digits always
suffice for binary64; past them the exact value is returned.
-/

namespace Reckon.Decimal

/-- The least `k` with `m * 2^q < 10^k`, for `m > 0`. The estimate from the
digit counts of numerator and denominator is off by at most one. -/
def Binary.scale (x : Binary) : Int :=
  let num := x.m * Nat.pow 2 x.q.toNat
  let den := Nat.pow 2 (-x.q).toNat
  let estimate : Int := (digitCount num : Int) - (digitCount den : Int)
  -- the value is below 10^estimate exactly when num < 10^estimate * den
  let below := if estimate ≥ 0 then num < Nat.pow 10 estimate.toNat * den
    else num * Nat.pow 10 (-estimate).toNat < den
  if below then estimate else estimate + 1

/-- The floor of `m * 2^q / 10^p`: the value's lower neighbour on the grid `10^p`. -/
def Binary.floorOnGrid (x : Binary) (p : Int) : Nat :=
  (x.m * Nat.pow 2 x.q.toNat * Nat.pow 10 (-p).toNat) /
    (Nat.pow 2 (-x.q).toNat * Nat.pow 10 p.toNat)

/-- Which of two decimals on one grid is nearer to `x`: compares the value
with their midpoint `(2 * low + 1) * 10^p / 2`. `true` picks the upper one,
also on an exact tie. -/
def Binary.prefersUpper (x : Binary) (low : Nat) (p : Int) : Bool :=
  compareScaled (2 * low + 1) p (2 * x.m) x.q != .gt

/-- The decimal of `n` significant digits chosen for `x`, if one reads back. -/
def Binary.candidate (x : Binary) (n : Nat) : Option Scaled :=
  let p := x.scale - n
  let low := x.floorOnGrid p
  let downOk := low > 0 && x.readsBack ⟨low, p⟩
  let upOk := x.readsBack ⟨low + 1, p⟩
  if downOk && upOk then
    some (if x.prefersUpper low p then ⟨low + 1, p⟩ else ⟨low, p⟩)
  else if downOk then some ⟨low, p⟩
  else if upOk then some ⟨low + 1, p⟩
  else none

/-- Move trailing zeros of the digits into the exponent. -/
def Scaled.normalize (d : Scaled) : Scaled :=
  if d.digits = 0 then d
  else if d.digits % 10 = 0 then Scaled.normalize ⟨d.digits / 10, d.exponent + 1⟩
  else d
termination_by d.digits
decreasing_by omega

/-- The first digit count from `n` on, up to seventeen, with a candidate. -/
def Binary.searchFrom (x : Binary) (n : Nat) : Option Scaled :=
  if n > 17 then none
  else match x.candidate n with
    | some found => some found
    | none => x.searchFrom (n + 1)
termination_by 18 - n

/-- The exact decimal value of `m * 2^q`. -/
def Binary.exact (x : Binary) : Scaled :=
  if x.q ≥ 0 then ⟨x.m * Nat.pow 2 x.q.toNat, 0⟩ else ⟨x.m * Nat.pow 5 (-x.q).toNat, x.q⟩

/-- The shortest decimal that reads back to `x`, normalized; `x.m > 0`. -/
def Binary.shortest (x : Binary) : Scaled :=
  ((x.searchFrom 1).getD x.exact).normalize

end Reckon.Decimal
