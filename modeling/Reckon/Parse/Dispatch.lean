import Reckon.Parse.Rule

/-!
Dispatch: trying the registered parsers in order, with a limit on nesting.

A culture's order lists the statement and the expression parsers, each with
the name it is registered under. Dispatch tries them in order; the first match
wins and is labelled with that name, a decline passes to the next parser, and
an error ends the attempt. Every dispatch is one nesting level; the parsers it
calls dispatch one level deeper, and a dispatch at level `maxNestingDepth`
fails with `nestingTooDeep` before trying anything. Nesting is therefore
recursion on the levels left, and dispatch is total.
-/

namespace Reckon

/-- The parsers of one culture, in the order they are tried. -/
structure Order where
  statements : List (String × StmtRule)
  expressions : List (String × ExprRule)
deriving Inhabited

/-- The expression parsers after the first one registered as `name`; all of
them when none is. -/
def Order.expressionsAfter (order : Order) (name : String) : List (String × ExprRule) :=
  match order.expressions.findIdx? (fun entry => entry.1 == name) with
  | some position => order.expressions.drop (position + 1)
  | none => order.expressions

/-- How many dispatches may be nested. -/
def maxNestingDepth : Nat := 128

/-- The first match of `run` over the named rules, labelled with its name. -/
def firstMatch {ρ α : Type} (run : ρ → Attempt α) (label : α → String → α) :
    List (String × ρ) → Attempt α
  | [] => .ok none
  | (name, rule) :: rest =>
    match run rule with
    | .error e => .error e
    | .ok (some found) => .ok (some (label found name))
    | .ok none => firstMatch run label rest

namespace Dispatch

/-- Dispatch with no levels left: every entry point fails. -/
def exhausted : Dispatch where
  expression c := .error (.parse (.nestingTooDeep c.line))
  operand _ c := .error (.parse (.nestingTooDeep c.line))
  statement c := .error (.parse (.nestingTooDeep c.line))

/-- Dispatch at one level, given dispatch one level deeper. -/
def step (order : Order) (bindings : Bindings) (sub : Dispatch) : Dispatch where
  expression c := firstMatch (fun rule => rule.run bindings sub c)
    (fun found name => { found with parser := name }) order.expressions
  operand after c := firstMatch (fun rule => rule.run bindings sub c)
    (fun found name => { found with parser := name }) (order.expressionsAfter after)
  statement c := firstMatch (fun rule => rule.run sub c)
    (fun found name => { found with parser := name }) order.statements

/-- Dispatch with `levels` nesting levels left. -/
def withLevels (order : Order) (bindings : Bindings) : Nat → Dispatch
  | 0 => exhausted
  | levels + 1 => step order bindings (withLevels order bindings levels)

end Dispatch

/-- Top-level dispatch for a culture's order under the given bindings. -/
def Order.dispatch (order : Order) (bindings : Bindings) : Dispatch :=
  Dispatch.withLevels order bindings maxNestingDepth

end Reckon
