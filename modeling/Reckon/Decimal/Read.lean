import Reckon.Decimal.Round

/-!
Reading decimals: decimal text to the nearest binary64, and to a 64-bit integer.

`Scaled.toFloat` rounds `digits * 10^exponent` to the nearest double with
`nearestFloat`, and `readFloat?` accepts the usual decimal
notation: an optional sign, digits with an optional point (digits on at least
one side), an optional exponent, or one of `inf`, `infinity` and `nan` in any
case. `readInt64` reads an optional sign and decimal digits and reports why it
refuses a text.
-/

namespace Reckon.Decimal

/-- The double nearest to `±digits * 10^exponent`. Values whose decimal point
lies more than 330 places from their first digit are settled without
arithmetic: such values round to zero or exceed every finite double. -/
def Scaled.toFloat (d : Scaled) (negative : Bool) : Float :=
  let place : Int := (digitCount d.digits : Int) + d.exponent
  if d.digits = 0 || place < -330 then nearestFloat negative 0 1
  else if place > 330 then nearestFloat negative (Nat.pow 10 400) 1
  else if d.exponent ≥ 0 then nearestFloat negative (d.digits * Nat.pow 10 d.exponent.toNat) 1
  else nearestFloat negative d.digits (Nat.pow 10 (-d.exponent).toNat)

/-- The value of a run of decimal digits. -/
def digitsValue (cs : List Char) : Nat :=
  cs.foldl (fun acc c => 10 * acc + (c.toNat - '0'.toNat)) 0

/-- Split off an optional sign: whether it was a minus, and the rest. -/
def splitSign : List Char → Bool × List Char
  | '-' :: rest => (true, rest)
  | '+' :: rest => (false, rest)
  | cs => (false, cs)

/-- The decimal written by `digits [. digits] [e [sign] digits]`, with digits on
at least one side of the point, if the whole text is of that form. -/
def readScaled? (cs : List Char) : Option Scaled :=
  let whole := cs.takeWhile Char.isDigit
  let afterWhole := cs.drop whole.length
  let (fraction, afterFraction) :=
    match afterWhole with
    | '.' :: rest => (rest.takeWhile Char.isDigit, rest.drop (rest.takeWhile Char.isDigit).length)
    | rest => ([], rest)
  if whole.length + fraction.length = 0 then none
  else
    let mantissa := digitsValue (whole ++ fraction)
    let exponent? : Option Int :=
      match afterFraction with
      | [] => some 0
      | e :: rest =>
        if e == 'e' || e == 'E' then
          let (negative, digits) := splitSign rest
          if digits.isEmpty || !digits.all Char.isDigit then none
          else
            let value : Int := digitsValue digits
            some (if negative then -value else value)
        else none
    exponent?.map fun exponent => ⟨mantissa, exponent - fraction.length⟩

/-- Read a double from decimal text; `none` for anything else. -/
def readFloat? (text : String) : Option Float :=
  let (negative, body) := splitSign text.toList
  let lower := String.ofList (body.map Char.toLower)
  let signed (x : Float) : Float := if negative then -x else x
  if lower == "inf" || lower == "infinity" then some (signed (1.0 / 0.0))
  else if lower == "nan" then some (signed (0.0 / 0.0))
  else (readScaled? body).map fun d => d.toFloat negative

/-- Why a text is not a 64-bit integer. -/
inductive IntegerReadError where
  | empty
  | invalidDigit
  | tooLarge
  | tooSmall
deriving DecidableEq, Repr

/-- The least and greatest 64-bit integers. -/
def int64Min : Int := -Int.pow 2 63
def int64Max : Int := Int.pow 2 63 - 1

/-- Accumulate decimal digits left to right, stopping at the first character
that is not a digit or the first step that leaves the 64-bit range. -/
def accumulateDigits (negative : Bool) : List Char → Int → Except IntegerReadError Int
  | [], acc => .ok acc
  | c :: rest, acc =>
    if !c.isDigit then .error .invalidDigit
    else
      let digit : Int := (c.toNat - '0'.toNat : Nat)
      let next := if negative then 10 * acc - digit else 10 * acc + digit
      if next > int64Max then .error .tooLarge
      else if next < int64Min then .error .tooSmall
      else accumulateDigits negative rest next

/-- Read a 64-bit integer: an optional sign followed by decimal digits. -/
def readInt64 (text : String) : Except IntegerReadError Int64 :=
  match text.toList with
  | [] => .error .empty
  | cs =>
    let (negative, digits) := splitSign cs
    if digits.isEmpty then .error .invalidDigit
    else (accumulateDigits negative digits 0).map Int64.ofInt

end Reckon.Decimal
