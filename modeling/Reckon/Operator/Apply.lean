import Reckon.Operator
import Reckon.Value
import Reckon.Decimal.Read

/-!
What the binary operators do to values.

Comparisons: `==` and `!=` compare two booleans, two texts or two numbers; the
ordering operators compare numbers only. Two integers are compared exactly;
a pair with a real is compared as reals, where a NaN is unordered and unequal.

Arithmetic on two integers is exact: a result outside the 64-bit range is an
overflow, and a quotient that is not whole is the real quotient of the two
integers as reals. Arithmetic with a real converts the integer operand exactly
(or fails), and a result that is not finite is an overflow. Any other pair is
a type mismatch.
-/

namespace Reckon

open Reckon.Decimal

/-- An integer result, or an overflow outside the 64-bit range. -/
def checkedInteger (r : Int) (line : Nat) : Except RuntimeError Value :=
  if int64Min ≤ r ∧ r ≤ int64Max then .ok (.integer (Int64.ofInt r)) else .error (.overflow line)

/-- A real result, or an overflow if it is not finite. -/
def finiteReal (x : Float) (line : Nat) : Except RuntimeError Value :=
  if x.isNaN || x.isInf then .error (.overflow line) else .ok (.real x)

namespace BinaryOperator

/-- The error for operands an operator does not take. -/
def mismatch (op : BinaryOperator) (left right : Value) (line : Nat) : RuntimeError :=
  .typeMismatch op.symbol left.typeName right.typeName line

/-- Whether two values are equal, for `==` and `!=`. -/
def valuesEqual (op : BinaryOperator) (left right : Value) (line : Nat) :
    Except RuntimeError Bool :=
  match left, right with
  | .boolean a, .boolean b => .ok (a == b)
  | .text a, .text b => .ok (a == b)
  | .integer a, .integer b => .ok (a == b)
  | .integer _, .real _ | .real _, .integer _ | .real _, .real _ => do
    let a ← left.asReal line
    let b ← right.asReal line
    pure (a == b)
  | _, _ => .error (op.mismatch left right line)

/-- An ordering operator on two integers. -/
def orderIntegers (op : BinaryOperator) (a b : Int) : Bool :=
  match op with
  | less => a < b
  | lessEqual => a ≤ b
  | greater => a > b
  | _ => a ≥ b

/-- An ordering operator on two reals; false when either is NaN. -/
def orderReals (op : BinaryOperator) (a b : Float) : Bool :=
  match op with
  | less => a < b
  | lessEqual => a ≤ b
  | greater => a > b
  | _ => a ≥ b

/-- A relational operator applied to two values. -/
def compareValues (op : BinaryOperator) (left right : Value) (line : Nat) :
    Except RuntimeError Value :=
  match op with
  | equal | notEqual => do
    let same ← op.valuesEqual left right line
    pure (.boolean (if op == equal then same else !same))
  | less | lessEqual | greater | greaterEqual =>
    if !left.isNumber || !right.isNumber then .error (op.mismatch left right line)
    else
      match left, right with
      | .integer a, .integer b => .ok (.boolean (op.orderIntegers a.toInt b.toInt))
      | _, _ => do
        let a ← left.asReal line
        let b ← right.asReal line
        pure (.boolean (op.orderReals a b))
  | _ => .error (op.mismatch left right line)

/-- An arithmetic operator on two integers. -/
def integerArithmetic (op : BinaryOperator) (a b : Int64) (left right : Value) (line : Nat) :
    Except RuntimeError Value :=
  match op with
  | add => checkedInteger (a.toInt + b.toInt) line
  | subtract => checkedInteger (a.toInt - b.toInt) line
  | multiply => checkedInteger (a.toInt * b.toInt) line
  | divide =>
    if b.toInt = 0 then .error (.divisionByZero line)
    else if a.toInt.tmod b.toInt ≠ 0 then
      .ok (.real (floatOfInt a.toInt / floatOfInt b.toInt))
    else checkedInteger (a.toInt.tdiv b.toInt) line
  | _ => .error (op.mismatch left right line)

/-- An arithmetic operator on two reals. -/
def realArithmetic (op : BinaryOperator) (a b : Float) (left right : Value) (line : Nat) :
    Except RuntimeError Value :=
  match op with
  | add => finiteReal (a + b) line
  | subtract => finiteReal (a - b) line
  | multiply => finiteReal (a * b) line
  | divide => if b == 0.0 then .error (.divisionByZero line) else finiteReal (a / b) line
  | _ => .error (op.mismatch left right line)

/-- An arithmetic operator applied to two values. -/
def computeValues (op : BinaryOperator) (left right : Value) (line : Nat) :
    Except RuntimeError Value :=
  match left, right with
  | .integer a, .integer b => op.integerArithmetic a b left right line
  | .integer _, .real _ | .real _, .integer _ | .real _, .real _ => do
    let (l, r) ← left.promoteToReal right line
    let a ← l.asReal line
    let b ← r.asReal line
    op.realArithmetic a b left right line
  | _, _ => .error (op.mismatch left right line)

/-- An operator applied to two values; `line` is where errors are reported. -/
def apply (op : BinaryOperator) (left right : Value) (line : Nat) : Except RuntimeError Value :=
  if op.isRelational then op.compareValues left right line else op.computeValues left right line

end BinaryOperator

end Reckon
