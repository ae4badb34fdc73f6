import Reckon.Operator.Apply

/-!
The built-in functions: `abs`, `sqrt`, `ln`, `exp`, `sin`, `cos`, `tan`,
`round`, `floor`, `ceil`, which take one argument, and `min` and `max`, which
take one or more.

A call first finds the function by name and checks the number of arguments.
Results that are whole and exactly representable come back as integers
(`sqrt` of a perfect square, `round`, `floor` and `ceil`); a real result that
is not finite is an overflow. `min` and `max` return the winning argument
itself, so an integer stays an integer, and among equal arguments the first
one wins.
-/

namespace Reckon

open Reckon.Decimal

/-- A built-in function. -/
inductive Builtin where
  | abs
  | sqrt
  | ln
  | exp
  | sin
  | cos
  | tan
  | round
  | floor
  | ceil
  | min
  | max
deriving DecidableEq, Repr, Inhabited

namespace Builtin

/-- Every built-in function, in the order they are looked up. -/
def all : List Builtin :=
  [abs, sqrt, ln, exp, sin, cos, tan, round, floor, ceil, min, max]

/-- The name a function is called by. -/
def name : Builtin → String
  | abs => "abs"
  | sqrt => "sqrt"
  | ln => "ln"
  | exp => "exp"
  | sin => "sin"
  | cos => "cos"
  | tan => "tan"
  | round => "round"
  | floor => "floor"
  | ceil => "ceil"
  | min => "min"
  | max => "max"

/-- The function called `name`, if there is one. -/
def ofName? (name : String) : Option Builtin :=
  all.find? fun f => f.name == name

/-- Whether a word names a built-in function. -/
def isName (name : String) : Bool :=
  (ofName? name).isSome

/-- The number of arguments a function needs: exactly, or at least. -/
def arity : Builtin → Nat
  | _ => 1

/-- Whether the function takes more arguments than its arity. -/
def isVariadic : Builtin → Bool
  | min | max => true
  | _ => false

/-- Whether a function takes `count` arguments. -/
def accepts (f : Builtin) (count : Nat) : Bool :=
  if f.isVariadic then count ≥ f.arity else count == f.arity

/-- The first argument as a real. -/
def firstReal (args : List Value) (line : Nat) : Except RuntimeError Float :=
  match args with
  | [] => .error (.expectedNumber line)
  | arg :: _ => arg.asReal line

/-- A whole, exactly representable real as an integer; any other finite real
as itself. -/
def integralOrReal (x : Float) (line : Nat) : Except RuntimeError Value :=
  match exactInteger? x with
  | some n => .ok (.integer n)
  | none => finiteReal x line

/-- Scan arguments for the least (`pickLess`) or greatest one, compared as
reals: a later argument replaces the current best only when strictly better. -/
def scanExtreme (pickLess : Bool) (line : Nat) :
    Option (Value × Float) → List Value → Except RuntimeError (Option (Value × Float))
  | best, [] => .ok best
  | best, arg :: rest => do
    let value ← arg.asReal line
    let better := match best with
      | none => true
      | some (_, current) => if pickLess then value < current else value > current
    scanExtreme pickLess line (if better then some (arg, value) else best) rest

/-- The least (`pickLess`) or greatest argument, returned as it was given. -/
def extreme (pickLess : Bool) (args : List Value) (line : Nat) : Except RuntimeError Value := do
  match ← scanExtreme pickLess line none args with
  | some (arg, _) => pure arg
  | none => throw (.expectedNumber line)

/-- The square root; an integer argument with a whole root gives that root as
an integer. -/
def squareRoot (args : List Value) (line : Nat) : Except RuntimeError Value := do
  let x ← firstReal args line
  if x < 0.0 then
    throw (.invalidArgument ("sqrt is undefined for " ++ realText x) line)
  let root := x.sqrt
  match args with
  | .integer n :: _ =>
    match exactInteger? root with
    | some r => if r.toInt * r.toInt == n.toInt then pure (.integer r) else finiteReal root line
    | none => finiteReal root line
  | _ => finiteReal root line

/-- Round with `rounding`, keeping an integer argument as it is. -/
def roundWith (rounding : Float → Float) (args : List Value) (line : Nat) :
    Except RuntimeError Value :=
  match args with
  | .integer n :: _ => .ok (.integer n)
  | _ => do
    let x ← firstReal args line
    integralOrReal (rounding x) line

/-- A function of one real with a finite real result. -/
def realFunction (f : Float → Float) (args : List Value) (line : Nat) :
    Except RuntimeError Value := do
  let x ← firstReal args line
  finiteReal (f x) line

/-- What a function does with arguments of an accepted count. -/
def evaluate (f : Builtin) (args : List Value) (line : Nat) : Except RuntimeError Value :=
  match f with
  | abs =>
    match args with
    | .integer n :: _ => checkedInteger n.toInt.natAbs line
    | .real x :: _ => .ok (.real x.abs)
    | _ => .error (.expectedNumber line)
  | sqrt => squareRoot args line
  | ln => do
    let x ← firstReal args line
    if x ≤ 0.0 then throw (.invalidArgument ("ln is undefined for " ++ realText x) line)
    finiteReal x.log line
  | exp => realFunction Float.exp args line
  | sin => realFunction Float.sin args line
  | cos => realFunction Float.cos args line
  | tan => realFunction Float.tan args line
  | round => roundWith Float.round args line
  | floor => roundWith Float.floor args line
  | ceil => roundWith Float.ceil args line
  | min => extreme true args line
  | max => extreme false args line

end Builtin

/-- Call the built-in function `name` on `args`; `line` is where errors are
reported. -/
def callBuiltin (name : String) (args : List Value) (line : Nat) : Except RuntimeError Value :=
  match Builtin.ofName? name with
  | none => .error (.unknownFunction name line)
  | some f =>
    if f.accepts args.length then f.evaluate args line
    else .error (.argumentCountMismatch name f.arity args.length line)

end Reckon
