import Reckon.Parse.Match
import Reckon.Operator.Apply

/-!
Chains of binary operators, by precedence climbing.

The first operand is read by the parsers registered after the binary parser;
without one the binary parser declines. Then, while the next token is an
operator that binds at least as strongly as the current level, the operand
after it is read, every following operator that binds more strongly is folded
into that operand first (one level up), and the two sides are combined and
evaluated. An operator with no operand after it is left unread. Equal
precedence associates to the left.

Termination: `climb` works at a level from 1 to 3 and `tighten` only calls it
one level up; within a level every round consumes the operator and its
operand, so the position in the view grows. The measure is the pair (levels
left, tokens left). A match always moves its cursor forward, so the guards on
progress only restate that fact.
-/

namespace Reckon.Parse

/-- The operator under the cursor, if any. -/
def operatorAt? (c : Cursor) : Option BinaryOperator :=
  c.kind?.bind BinaryOperator.ofKind?

/-- Join two operands with an operator and evaluate the result; errors are
reported on `line`, the operator's line. -/
def combine (left : ExprMatch) (op : BinaryOperator) (right : ExprMatch) (line : Nat) :
    Except InterpretError ExprMatch :=
  match op.apply left.value right.value line with
  | .error e => .error (.runtime e)
  | .ok value =>
    .ok { node := .binary op left.node right.node ⟨left.node.span.first, right.node.span.last⟩,
          value, next := right.next, parser := "" }

mutual

/-- Extend `left` with every operator that binds at least `minPrecedence`. -/
def climb (operand : Cursor → Attempt ExprMatch) (bound minPrecedence : Nat)
    (left : ExprMatch) : Except InterpretError ExprMatch :=
  match operatorAt? left.next with
  | none => .ok left
  | some op =>
    if minPrecedence ≤ op.precedence then
      match operand left.next.advance with
      | .error e => .error e
      | .ok none => .ok left
      | .ok (some right) =>
        if _progress : left.next.index < right.next.index ∧ right.next.index ≤ bound then
          match tighten operand bound op right with
          | .error e => .error e
          | .ok tightened =>
            match combine left op tightened left.next.line with
            | .error e => .error e
            | .ok joined =>
              if _moved : left.next.index < joined.next.index ∧ joined.next.index ≤ bound then
                climb operand bound minPrecedence joined
              else .ok joined
        else .ok left
    else .ok left
termination_by (4 - minPrecedence, bound - left.next.index, 1)
decreasing_by
  · have := BinaryOperator.precedence_le_three op
    by_cases same : op.precedence = minPrecedence
    · subst same
      apply Prod.Lex.right
      apply Prod.Lex.left
      omega
    · apply Prod.Lex.left
      omega
  · apply Prod.Lex.right
    apply Prod.Lex.left
    omega

/-- Fold into `right` every following operator that binds more strongly than
`op`. -/
def tighten (operand : Cursor → Attempt ExprMatch) (bound : Nat) (op : BinaryOperator)
    (right : ExprMatch) : Except InterpretError ExprMatch :=
  match operatorAt? right.next with
  | none => .ok right
  | some following =>
    if op.precedence < following.precedence then
      match climb operand bound (op.precedence + 1) right with
      | .error e => .error e
      | .ok extended =>
        if _moved : right.next.index < extended.next.index ∧ extended.next.index ≤ bound then
          tighten operand bound op extended
        else .ok right
    else .ok right
termination_by (4 - op.precedence, bound - right.next.index, 0)
decreasing_by
  · have := BinaryOperator.precedence_le_three op
    apply Prod.Lex.left
    omega
  · apply Prod.Lex.right
    apply Prod.Lex.left
    omega

end

/-- A chain of operands and binary operators. `operand` reads an operand by
the parsers registered after this one. -/
def binaryOperation (operand : Cursor → Attempt ExprMatch) (c : Cursor) : Attempt ExprMatch :=
  match operand c with
  | .error e => .error e
  | .ok none => .ok none
  | .ok (some first) =>
    match climb operand c.stop 1 first with
    | .error e => .error e
    | .ok found => .ok (some found)

end Reckon.Parse
