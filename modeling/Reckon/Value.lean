import Reckon.Decimal.Shortest
import Reckon.Decimal.Round
import Reckon.Error

/-!
Values of the calculator: booleans, 64-bit integers, reals (binary64) and texts.

An integer becomes a real only when the real holds it exactly, that is when
its magnitude is at most `2^53 - 1`; beyond that the conversion is an
overflow, so no operation silently rounds an integer. `Value.display` is how a
value is written in results: reals in positional notation with the fewest
digits that read back.
-/

namespace Reckon

open Reckon.Decimal

/-- A value of the calculator. -/
inductive Value where
  | boolean (b : Bool)
  | integer (n : Int64)
  | real (x : Float)
  | text (s : String)
deriving Inhabited

/-- The largest magnitude of an integer that a real holds exactly, `2^53 - 1`. -/
def maxExactInteger : Nat := 9007199254740991

/-- A real in positional notation: the shortest decimal that reads back, with
no exponent; `0.` and leading zeros below one, trailing zeros above the last
digit. -/
def Decimal.Scaled.positional (d : Scaled) : String :=
  let digits := toString d.digits
  let count : Int := digits.length
  let point := count + d.exponent
  if point ≤ 0 then "0." ++ String.ofList (List.replicate (-point).toNat '0') ++ digits
  else if point < count then
    String.ofList (digits.toList.take point.toNat) ++ "." ++
      String.ofList (digits.toList.drop point.toNat)
  else digits ++ String.ofList (List.replicate d.exponent.toNat '0')

/-- The text of a real: `NaN`, `inf` and `-inf` for the values that are not
finite, a signed zero as `0` or `-0`, and otherwise the sign and the positional
shortest decimal. -/
def realText (x : Float) : String :=
  if x.isNaN then "NaN"
  else
    let sign := if signBit x then "-" else ""
    if x.isInf then sign ++ "inf"
    else
      let magnitude := Binary.ofBits x.toBits
      if magnitude.m == 0 then sign ++ "0" else sign ++ magnitude.shortest.positional

/-- The real an integer stands for, when the real holds it exactly. -/
def exactReal (n : Int64) (line : Nat) : Except RuntimeError Float :=
  if n.toInt.natAbs > maxExactInteger then .error (.overflow line) else .ok (floatOfInt n.toInt)

/-- The integer a real stands for, when it is integral and at most
`2^53 - 1` in magnitude. -/
def exactInteger? (x : Float) : Option Int64 :=
  match exactInt? x with
  | some n => if n.natAbs > maxExactInteger then none else some (Int64.ofInt n)
  | none => none

namespace Value

/-- The name of a value's type; integers and reals are both numbers. -/
def typeName : Value → String
  | boolean _ => "boolean"
  | integer _ | real _ => "number"
  | text _ => "text"

/-- Whether a value is a number. -/
def isNumber : Value → Bool
  | integer _ | real _ => true
  | _ => false

/-- The boolean a value is, if it is one. -/
def asBool? : Value → Option Bool
  | boolean b => some b
  | _ => none

/-- The text of a value in results. -/
def display : Value → String
  | boolean b => if b then "true" else "false"
  | integer n => toString n.toInt
  | real x => realText x
  | text s => s

/-- The real a number stands for: integers only when held exactly. -/
def asReal (v : Value) (line : Nat) : Except RuntimeError Float :=
  match v with
  | real x => .ok x
  | integer n => exactReal n line
  | _ => .error (.expectedNumber line)

/-- Bring a pair of an integer and a real to two reals; every other pair is
left as it is. -/
def promoteToReal (v other : Value) (line : Nat) : Except RuntimeError (Value × Value) :=
  match v, other with
  | real _, integer _ => do
    let x ← other.asReal line
    pure (v, real x)
  | integer _, real _ => do
    let x ← v.asReal line
    pure (real x, other)
  | _, _ => pure (v, other)

end Value

end Reckon
