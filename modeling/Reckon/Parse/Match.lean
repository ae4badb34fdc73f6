import Reckon.Expr
import Reckon.Bindings

/-!
What a parser returns, and how a parser reaches the parsers it nests.

A parser that recognises its construct at a cursor returns a match: the tree
it read, the value of that tree (evaluation happens while parsing), the cursor
just past what it read, and the name under which it was registered. A parser
that does not recognise its construct declines with `none`; an error stops the
whole line. Statement matches also carry the one variable declaration the
statement makes, if any: a pass has bound it by the time the match is returned
(`Reckon.Parse.Interpretation`), and `readLine` applies it once the line is read.

Parsers never call each other directly. They receive a `Dispatch`, the three
entry points one nesting level deeper: any expression, an expression by the
parsers registered after a given one, and any statement.
-/

namespace Reckon

/-- An expression read at a cursor. -/
structure ExprMatch where
  node : Expr
  value : Value
  next : Cursor
  parser : String

/-- A statement read at a cursor. -/
structure StmtMatch where
  node : Stmt
  value : Option Value
  next : Cursor
  parser : String
  declares : Option (String × Value)

/-- The outcome of trying a parser: an error, a decline (`none`) or a match. -/
abbrev Attempt (α : Type) := Except InterpretError (Option α)

/-- The entry points for nested parsing. -/
structure Dispatch where
  /-- Any expression, by every expression parser in order. -/
  expression : Cursor → Attempt ExprMatch
  /-- An expression by the parsers registered after the named one. -/
  operand : String → Cursor → Attempt ExprMatch
  /-- Any statement, by every statement parser in order. -/
  statement : Cursor → Attempt StmtMatch

namespace Dispatch

/-- An expression read in the view cut short before the first token of kind
`stop`, with the position carried back into the full view. -/
def expressionUntil (d : Dispatch) (c : Cursor) (stop : TokenKind) :
    Except InterpretError (Option ExprMatch) := do
  match ← d.expression (c.until stop) with
  | some found => pure (some { found with next := c.resume found.next })
  | none => pure none

/-- A statement read in the view cut short before the first token of kind
`stop`, with the position carried back into the full view. -/
def statementUntil (d : Dispatch) (c : Cursor) (stop : TokenKind) :
    Except InterpretError (Option StmtMatch) := do
  match ← d.statement (c.until stop) with
  | some found => pure (some { found with next := c.resume found.next })
  | none => pure none

end Dispatch

end Reckon
