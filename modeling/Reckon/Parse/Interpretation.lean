import Reckon.Parse.Dispatch

/-!
An interpretation pass as the parsers see it: one state, the variables declared so far and
the number of dispatches under way, read and written by every entry point.

A dispatch fails with `nestingTooDeep` once `maxNestingDepth` dispatches are under way.
Otherwise it counts itself, tries the parsers in order, uncounts itself whatever they
returned, and returns what they returned (`Interp.nest`). A declaration binds its name in the
state as soon as its value is read; a condition reads the branch it selected through the
statement dispatch, which may declare in turn. A reference reads the variables of the state.
No other parser touches the state.

The parsers that read no nested construct are the ones of `Reckon.Parse`, lifted. Those that
dispatch are written again here, step for step as there, with the state threaded through: the
pure dispatch of `Reckon.Parse.Dispatch` is the same computation with the variables fixed and
the depth as the number of levels left, and `Reckon.Proofs.Interpretation` proves the two
equal.

The levels of `Interp.withLevels` only make the recursion structural: with at least
`maxNestingDepth` of them, the depth check stops every nesting first.
-/

namespace Reckon

/-- The state of a pass: the variables declared so far and how many dispatches are under way. -/
structure Interpretation where
  bindings : Bindings
  depth : Nat := 0

/-- A computation of a pass. It reads and writes the state; an error ends it and keeps the
state as the error found it. -/
abbrev Interp (α : Type) := ExceptT InterpretError (StateM Interpretation) α

namespace Interp

variable {α : Type}

/-- A result computed without the state. -/
def lift (attempt : Except InterpretError α) : Interp α :=
  ExceptT.mk (pure attempt)

/-- The entry points one nesting level deeper. -/
structure Entries where
  /-- Any expression, by every expression parser in order. -/
  expression : Cursor → Interp (Option ExprMatch)
  /-- An expression by the parsers registered after the named one. -/
  operand : String → Cursor → Interp (Option ExprMatch)
  /-- Any statement, by every statement parser in order. -/
  statement : Cursor → Interp (Option StmtMatch)

namespace Entries

/-- An expression read in the view cut short before the first token of kind `stop`, with the
position carried back into the full view. -/
def expressionUntil (e : Entries) (c : Cursor) (stop : TokenKind) : Interp (Option ExprMatch) := do
  match ← e.expression (c.until stop) with
  | some found => pure (some { found with next := c.resume found.next })
  | none => pure none

/-- A statement read in the view cut short before the first token of kind `stop`, with the
position carried back into the full view. -/
def statementUntil (e : Entries) (c : Cursor) (stop : TokenKind) : Interp (Option StmtMatch) := do
  match ← e.statement (c.until stop) with
  | some found => pure (some { found with next := c.resume found.next })
  | none => pure none

end Entries

/-! ### Operands -/

/-- A reference to a variable bound in the state. -/
def reference (c : Cursor) : Interp (Option ExprMatch) := do
  lift (Parse.reference (← get).bindings c)

/-- A parenthesised expression. -/
def group (sub : Entries) (c : Cursor) : Interp (Option ExprMatch) := do
  match c.skip? .lParen false with
  | none => pure none
  | some innerStart =>
    let missing : InterpretError := .parse (.expectedClosingParen c.line)
    let some inner ← sub.expression innerStart | throw missing
    let some next := inner.next.skip? .rParen false | throw missing
    pure (some { node := .group inner.node (c.spanTo next), value := inner.value, next,
                 parser := "" })

/-- The items of an argument list from `current` on, each followed by `,` or `;` and the last
by `)`; `bound` is the end of the view and `listStart` the cursor after `(`. -/
def argumentItems (sub : Entries) (listStart : Cursor) (bound : Nat) (current : Cursor)
    (read : List ExprMatch) : Interp (List ExprMatch × Cursor) := do
  let missing : InterpretError := .parse (.expectedClosingParen listStart.line)
  let some item ← sub.expression current | throw missing
  match item.next.kind? with
  | some .comma | some .semicolon =>
    if _moved : current.index < item.next.advance.index ∧ item.next.advance.index ≤ bound then
      argumentItems sub listStart bound item.next.advance (read ++ [item])
    else throw missing
  | some .rParen => pure (read ++ [item], item.next.advance)
  | _ => throw missing
termination_by bound - current.index
decreasing_by omega

/-- The arguments after `(`: none when `)` follows at once. -/
def arguments (sub : Entries) (listStart : Cursor) : Interp (List ExprMatch × Cursor) :=
  match listStart.skip? .rParen false with
  | some after => pure ([], after)
  | none => argumentItems sub listStart listStart.stop listStart []

/-- A call of a built-in function, evaluated once its arguments are read. -/
def call (sub : Entries) (c : Cursor) : Interp (Option ExprMatch) := do
  if !(c.isAt .word && Builtin.isName c.text) then return none
  let some listStart := c.advance.skip? .lParen false | return none
  let (items, next) ← arguments sub listStart
  match callBuiltin c.text (items.map ExprMatch.value) c.line with
  | .ok value =>
    pure (some { node := .call c.text (items.map ExprMatch.node) (c.spanTo next), value, next,
                 parser := "" })
  | .error e => throw (.runtime e)

/-! ### Operator chains -/

mutual

/-- Extend `left` with every operator that binds at least `minPrecedence`. -/
def climb (operand : Cursor → Interp (Option ExprMatch)) (bound minPrecedence : Nat)
    (left : ExprMatch) : Interp ExprMatch := do
  match Parse.operatorAt? left.next with
  | none => pure left
  | some op =>
    if minPrecedence ≤ op.precedence then
      let some right ← operand left.next.advance | pure left
      if _progress : left.next.index < right.next.index ∧ right.next.index ≤ bound then
        let tightened ← tighten operand bound op right
        let joined ← lift (Parse.combine left op tightened left.next.line)
        if _moved : left.next.index < joined.next.index ∧ joined.next.index ≤ bound then
          climb operand bound minPrecedence joined
        else pure joined
      else pure left
    else pure left
termination_by (4 - minPrecedence, bound - left.next.index, 1)
decreasing_by
  · have := BinaryOperator.precedence_le_three op
    by_cases same : op.precedence = minPrecedence
    · subst same
      apply Prod.Lex.right
      apply Prod.Lex.left
      omega
    · apply Prod.Lex.left
      omega
  · apply Prod.Lex.right
    apply Prod.Lex.left
    omega

/-- Fold into `right` every following operator that binds more strongly than `op`. -/
def tighten (operand : Cursor → Interp (Option ExprMatch)) (bound : Nat) (op : BinaryOperator)
    (right : ExprMatch) : Interp ExprMatch := do
  match Parse.operatorAt? right.next with
  | none => pure right
  | some following =>
    if op.precedence < following.precedence then
      let extended ← climb operand bound (op.precedence + 1) right
      if _moved : right.next.index < extended.next.index ∧ extended.next.index ≤ bound then
        tighten operand bound op extended
      else pure right
    else pure right
termination_by (4 - op.precedence, bound - right.next.index, 0)
decreasing_by
  · have := BinaryOperator.precedence_le_three op
    apply Prod.Lex.left
    omega
  · apply Prod.Lex.right
    apply Prod.Lex.left
    omega

end

/-- A chain of operands and binary operators; `operand` reads an operand by the parsers
registered after this one. -/
def binaryOperation (operand : Cursor → Interp (Option ExprMatch)) (c : Cursor) :
    Interp (Option ExprMatch) := do
  let some first ← operand c | pure none
  let found ← climb operand c.stop 1 first
  pure (some found)

/-! ### Statements -/

/-- A declaration `name = expression`: once the value is read, the name is bound to it. -/
def declaration (sub : Entries) (c : Cursor) : Interp (Option StmtMatch) := do
  if !c.isAt .word then return none
  let some valueStart := c.advance.skip? .equals false | return none
  let some found ← sub.expression valueStart | return none
  modify fun s => { s with bindings := s.bindings.declare c.text found.value }
  pure (some { node := .declaration c.text found.node (c.spanTo found.next),
               value := some found.value, next := found.next, parser := "",
               declares := some (c.text, found.value) })

/-- An expression whose root is a binary operation: a condition without branch for a
relational operator, a calculation for an arithmetic one. -/
def conditionalExpression (sub : Entries) (c : Cursor) : Interp (Option StmtMatch) := do
  let some found ← sub.expression c | pure none
  let some op := found.node.rootOperator? | pure none
  let span := c.spanTo found.next
  let node := if op.isRelational then Stmt.condition found.node none span
    else Stmt.calculation found.node span
  pure (some { node, value := some found.value, next := found.next, parser := "",
               declares := none })

/-- Any expression, as a calculation. -/
def numericalExpression (sub : Entries) (c : Cursor) : Interp (Option StmtMatch) := do
  let some found ← sub.expression c | pure none
  pure (some { node := .calculation found.node (c.spanTo found.next),
               value := some found.value, next := found.next, parser := "", declares := none })

/-- The branch a condition selected, read and interpreted, and where the condition ends. -/
def selectedBranch (sub : Entries) (c branchStart : Cursor) (taken : Bool) :
    Interp (Option StmtMatch × Cursor) := do
  if taken then
    let some branch ← sub.statementUntil branchStart .elseKw
      | throw (.parse (.missingBranch "then" c.line))
    let next := if branch.next.isAt .elseKw then branch.next.endOfView else branch.next
    pure (some branch, next)
  else
    match branchStart.seek? .elseKw with
    | some elseToken =>
      let some branch ← sub.statement elseToken.advance
        | throw (.parse (.missingBranch "else" c.line))
      pure (some branch, branch.next)
    | none => pure (none, c.endOfView)

/-- A condition `[words] if condition then statement [else statement]`. -/
def condition (sub : Entries) (c : Cursor) : Interp (Option StmtMatch) := do
  let some conditionStart := c.skip? .ifKw true | pure none
  let some thenToken := conditionStart.seek? .thenKw | pure none
  let some test ← sub.expressionUntil conditionStart .thenKw | pure none
  if !test.next.sameSpot thenToken then return none
  let some taken := test.value.asBool? | pure none
  let (branch, next) ← selectedBranch sub c thenToken.advance taken
  pure (some { node := .condition test.node (branch.map StmtMatch.node) (c.spanTo next),
               value := branch.bind StmtMatch.value, next, parser := "",
               declares := branch.bind StmtMatch.declares })

end Interp

/-- Apply an expression rule in a pass. -/
def ExprRule.runIn (rule : ExprRule) (sub : Interp.Entries) (c : Cursor) :
    Interp (Option ExprMatch) :=
  match rule with
  | binaryOperation => Interp.binaryOperation (sub.operand binaryOperation.name) c
  | group => Interp.group sub c
  | function => Interp.call sub c
  | decimalComma => Interp.lift (Parse.decimalComma c)
  | data => Interp.lift (Parse.data c)
  | variableReference => Interp.reference c

/-- Apply a statement rule in a pass. -/
def StmtRule.runIn (rule : StmtRule) (sub : Interp.Entries) (c : Cursor) :
    Interp (Option StmtMatch) :=
  match rule with
  | comment => Interp.lift (Parse.comment c)
  | header => Interp.lift (Parse.header c)
  | condition => Interp.condition sub c
  | declaration => Interp.declaration sub c
  | conditionalExpression => Interp.conditionalExpression sub c
  | numericalExpression => Interp.numericalExpression sub c

namespace Interp

variable {ρ α : Type}

/-- The first match of `run` over the named rules, labelled with its name. -/
def firstMatch (run : ρ → Interp (Option α)) (label : α → String → α) :
    List (String × ρ) → Interp (Option α)
  | [] => pure none
  | (name, rule) :: rest => do
    match ← run rule with
    | some found => pure (some (label found name))
    | none => firstMatch run label rest

/-- One dispatch: it fails once `maxNestingDepth` dispatches are under way; otherwise it is
counted while `attempt` runs and uncounted afterwards, whatever `attempt` returned. -/
def nest (line : Nat) (attempt : Interp α) : Interp α := do
  if maxNestingDepth ≤ (← get).depth then throw (.parse (.nestingTooDeep line))
  modify fun s => { s with depth := s.depth + 1 }
  ExceptT.mk do
    let result ← attempt.run
    modify fun s => { s with depth := s.depth - 1 }
    pure result

/-- Entry points with no levels left: every one fails. -/
def exhausted : Entries where
  expression c := throw (.parse (.nestingTooDeep c.line))
  operand _ c := throw (.parse (.nestingTooDeep c.line))
  statement c := throw (.parse (.nestingTooDeep c.line))

/-- The entry points of one level, given those one level deeper. -/
def step (order : Order) (sub : Entries) : Entries where
  expression c := nest c.line (firstMatch (fun rule => rule.runIn sub c)
    (fun found name => { found with parser := name }) order.expressions)
  operand after c := nest c.line (firstMatch (fun rule => rule.runIn sub c)
    (fun found name => { found with parser := name }) (order.expressionsAfter after))
  statement c := nest c.line (firstMatch (fun rule => rule.runIn sub c)
    (fun found name => { found with parser := name }) order.statements)

/-- The entry points with `levels` levels of recursion left. -/
def withLevels (order : Order) : Nat → Entries
  | 0 => exhausted
  | levels + 1 => step order (withLevels order levels)

end Interp

/-- The entry points of a pass in a culture's order. -/
def Order.entries (order : Order) : Interp.Entries :=
  Interp.withLevels order maxNestingDepth

end Reckon
