import Reckon.Parse.Match

/-!
Statements: comments, headers, variable declarations, calculations and
conditions.

A comment is a comment token. A header is `#` and the rest of the line as its
title. A declaration is a word, `=` and an expression; it declines when no
expression follows. A calculation is any expression; the fast path for
calculations accepts only a binary operation at the root, and reads a
relational one as a condition without a branch. A condition is
`[words] if C then T [else E]`: the condition C is read up to `then` and must
end there and be a boolean; then only the branch it selects is read. When the
selected branch is not a statement the line fails with a missing branch; when
the condition is false and there is no `else`, the statement has no value.
-/

namespace Reckon.Parse

/-- A comment token. -/
def comment (c : Cursor) : Attempt StmtMatch :=
  if c.isAt .comment then
    let next := c.advance
    .ok (some { node := .comment (c.spanTo next), value := none, next, parser := "",
                declares := none })
  else .ok none

/-- A header: `#` and a title up to the end of the line. -/
def header (c : Cursor) : Attempt StmtMatch :=
  match c.skip? .hash false with
  | some titleStart =>
    let next := c.endOfView
    .ok (some { node := .header titleStart.textToEnd (c.spanTo next), value := none, next,
                parser := "", declares := none })
  | none => .ok none

/-- A declaration `name = expression`, which binds the name to the expression's value. -/
def declaration (sub : Dispatch) (c : Cursor) : Attempt StmtMatch :=
  if !c.isAt .word then .ok none
  else
    match c.advance.skip? .equals false with
    | none => .ok none
    | some valueStart =>
      match sub.expression valueStart with
      | .error e => .error e
      | .ok none => .ok none
      | .ok (some found) =>
        .ok (some { node := .declaration c.text found.node (c.spanTo found.next),
                    value := some found.value, next := found.next, parser := "",
                    declares := some (c.text, found.value) })

/-- An expression whose root is a binary operation: a condition without branch
for a relational operator, a calculation for an arithmetic one. -/
def conditionalExpression (sub : Dispatch) (c : Cursor) : Attempt StmtMatch :=
  match sub.expression c with
  | .error e => .error e
  | .ok none => .ok none
  | .ok (some found) =>
    match found.node.rootOperator? with
    | none => .ok none
    | some op =>
      let span := c.spanTo found.next
      let node := if op.isRelational then Stmt.condition found.node none span
        else Stmt.calculation found.node span
      .ok (some { node, value := some found.value, next := found.next, parser := "",
                  declares := none })

/-- Any expression, as a calculation. -/
def numericalExpression (sub : Dispatch) (c : Cursor) : Attempt StmtMatch :=
  match sub.expression c with
  | .error e => .error e
  | .ok none => .ok none
  | .ok (some found) =>
    .ok (some { node := .calculation found.node (c.spanTo found.next),
                value := some found.value, next := found.next, parser := "", declares := none })

/-- The branch a condition selected: the statement, its value and declaration,
and where the condition statement ends. -/
def selectedBranch (sub : Dispatch) (c branchStart : Cursor) (taken : Bool) :
    Except InterpretError (Option StmtMatch × Cursor) :=
  if taken then
    match sub.statementUntil branchStart .elseKw with
    | .error e => .error e
    | .ok none => .error (.parse (.missingBranch "then" c.line))
    | .ok (some branch) =>
      let next := if branch.next.isAt .elseKw then branch.next.endOfView else branch.next
      .ok (some branch, next)
  else
    match branchStart.seek? .elseKw with
    | some elseToken =>
      match sub.statement elseToken.advance with
      | .error e => .error e
      | .ok none => .error (.parse (.missingBranch "else" c.line))
      | .ok (some branch) => .ok (some branch, branch.next)
    | none => .ok (none, c.endOfView)

/-- A condition `[words] if condition then statement [else statement]`. -/
def condition (sub : Dispatch) (c : Cursor) : Attempt StmtMatch :=
  match c.skip? .ifKw true with
  | none => .ok none
  | some conditionStart =>
    match conditionStart.seek? .thenKw with
    | none => .ok none
    | some thenToken =>
      match sub.expressionUntil conditionStart .thenKw with
      | .error e => .error e
      | .ok none => .ok none
      | .ok (some test) =>
        if !test.next.sameSpot thenToken then .ok none
        else
          match test.value.asBool? with
          | none => .ok none
          | some taken =>
            match selectedBranch sub c thenToken.advance taken with
            | .error e => .error e
            | .ok (branch, next) =>
              .ok (some { node := .condition test.node (branch.map StmtMatch.node) (c.spanTo next),
                          value := branch.bind StmtMatch.value, next, parser := "",
                          declares := branch.bind StmtMatch.declares })

end Reckon.Parse
