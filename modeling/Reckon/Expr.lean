import Reckon.Token.Cursor
import Reckon.Value
import Reckon.Operator

/-!
Parsed lines: expression and statement trees.

Every node records the span of tokens it was read from. Expressions are
literals, variable references, parenthesised groups, calls of built-in
functions and binary operations. A statement is a condition (with the branch
that was taken, if any), a variable declaration, a calculation, a comment or a
header.
-/

namespace Reckon

/-- An expression tree. -/
inductive Expr where
  | binary (op : BinaryOperator) (left right : Expr) (span : Span)
  | group (inner : Expr) (span : Span)
  | literal (value : Value) (span : Span)
  | reference (name : String) (span : Span)
  | call (name : String) (arguments : List Expr) (span : Span)
deriving Inhabited

/-- A statement tree. -/
inductive Stmt where
  | condition (test : Expr) (taken : Option Stmt) (span : Span)
  | declaration (name : String) (value : Expr) (span : Span)
  | calculation (expression : Expr) (span : Span)
  | comment (span : Span)
  | header (title : String) (span : Span)
deriving Inhabited

/-- The tokens an expression was read from. -/
def Expr.span : Expr → Span
  | .binary _ _ _ span | .group _ span | .literal _ span | .reference _ span | .call _ _ span => span

/-- The operator at the root of an expression, if it is a binary operation. -/
def Expr.rootOperator? : Expr → Option BinaryOperator
  | .binary op _ _ _ => some op
  | _ => none

/-- The tokens a statement was read from. -/
def Stmt.span : Stmt → Span
  | .condition _ _ span | .declaration _ _ span | .calculation _ span | .comment span
  | .header _ span => span

end Reckon
