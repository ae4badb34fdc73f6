import Reckon.Expr
import Reckon.Bindings
import Reckon.Builtin

/-!
The meaning of an expression tree under variable bindings.

A literal means itself, a reference the value bound to its name, a group its
inner expression, a call the built-in function applied to its arguments from
left to right, and a binary operation its operator applied to both sides, the
left side first. A reference to an unbound name has no meaning: the evaluator
then answers `none` rather than an error, since the language has no such
error. Runtime errors are reported on `line`.
-/

namespace Reckon

mutual

/-- The value of an expression: `none` when it refers to an unbound name. -/
def Expr.eval (bindings : Bindings) (line : Nat) : Expr → Option (Except RuntimeError Value)
  | .literal value _ => some (.ok value)
  | .reference name _ => (bindings.get? name).map Except.ok
  | .group inner _ => inner.eval bindings line
  | .call name arguments _ =>
    match Expr.evalAll bindings line arguments with
    | none => none
    | some (.error e) => some (.error e)
    | some (.ok values) => some (callBuiltin name values line)
  | .binary op left right _ =>
    match left.eval bindings line with
    | none => none
    | some (.error e) => some (.error e)
    | some (.ok l) =>
      match right.eval bindings line with
      | none => none
      | some (.error e) => some (.error e)
      | some (.ok r) => some (op.apply l r line)

/-- The values of a list of expressions, left to right, stopping at the first
error. -/
def Expr.evalAll (bindings : Bindings) (line : Nat) :
    List Expr → Option (Except RuntimeError (List Value))
  | [] => some (.ok [])
  | e :: rest =>
    match e.eval bindings line with
    | none => none
    | some (.error err) => some (.error err)
    | some (.ok v) =>
      match Expr.evalAll bindings line rest with
      | none => none
      | some (.error err) => some (.error err)
      | some (.ok vs) => some (.ok (v :: vs))

end

end Reckon
