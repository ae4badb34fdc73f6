import Reckon.Proofs.Statements
import Reckon.Proofs.ErrorLine
import Reckon.Expr.Eval

/-!
Contract: the value a parser computes while it reads is the value of the tree
it builds.

Parsers evaluate as they go: an operand is evaluated when it is read, an
operator when both its sides are, a call when its arguments are. Nothing is
lost or changed by doing so. At every nesting level, under any order of
parsers and any bindings, the tree of every expression match evaluates, on
any line, to the value the match carries (`Expr.Evaluates`); every statement
match yields what its tree and the rule that read it say (`Stmt.Yields`).

Owns: `Expr.Evaluates`, `Stmt.Yields`, one lemma per parser, the invariant
`Dispatch.Sound` and its proof at every level (`Dispatch.withLevels_sound`).

Does not own: what the bindings are when a line is read; they are fixed for
the whole line, and `Registry.interpret` chooses them.
-/

namespace Reckon

/-- `e` evaluates to `v` under `bindings`, whatever line an error would be
reported on. -/
def Expr.Evaluates (bindings : Bindings) (e : Expr) (v : Value) : Prop :=
  ∀ line, e.eval bindings line = some (.ok v)

/-- What a statement yields, given the rule that read it. A declaration or a
calculation yields the value of its expression, a comment or a header nothing.
A condition with a branch yields what its branch yields; the test selected that
branch, so it evaluates to a boolean. A condition without a branch yields the
value of its expression when the fast path for calculations read it, and
nothing when the condition rule did, whose test was then false. -/
inductive Stmt.Yields (bindings : Bindings) : StmtRule → Stmt → Option Value → Prop
  | comment (span : Span) : Stmt.Yields bindings .comment (.comment span) none
  | header (title : String) (span : Span) : Stmt.Yields bindings .header (.header title span) none
  | declaration {name : String} {e : Expr} {span : Span} {v : Value}
      (evaluates : e.Evaluates bindings v) :
      Stmt.Yields bindings .declaration (.declaration name e span) (some v)
  | calculation {e : Expr} {span : Span} {v : Value} (evaluates : e.Evaluates bindings v) :
      Stmt.Yields bindings .numericalExpression (.calculation e span) (some v)
  | fastCalculation {e : Expr} {span : Span} {v : Value} (evaluates : e.Evaluates bindings v) :
      Stmt.Yields bindings .conditionalExpression (.calculation e span) (some v)
  | fastCondition {e : Expr} {span : Span} {v : Value} (evaluates : e.Evaluates bindings v) :
      Stmt.Yields bindings .conditionalExpression (.condition e none span) (some v)
  | untaken {test : Expr} {span : Span} (isFalse : test.Evaluates bindings (.boolean false)) :
      Stmt.Yields bindings .condition (.condition test none span) none
  | taken {test : Expr} {branch : Stmt} {span : Span} {rule : StmtRule} {v : Option Value} {b : Bool}
      (tested : test.Evaluates bindings (.boolean b)) (branchYields : Stmt.Yields bindings rule branch v) :
      Stmt.Yields bindings .condition (.condition test (some branch) span) v

/-- The soundness of dispatch: every expression match evaluates to its value, and
every statement match yields its value by a rule registered under the name it
reports. -/
structure Dispatch.Sound (order : Order) (bindings : Bindings) (d : Dispatch) : Prop where
  expression : ∀ c m, d.expression c = .ok (some m) → m.node.Evaluates bindings m.value
  operand : ∀ after c m, d.operand after c = .ok (some m) → m.node.Evaluates bindings m.value
  statement : ∀ c m, d.statement c = .ok (some m) →
    ∃ rule, (m.parser, rule) ∈ order.statements ∧ Stmt.Yields bindings rule m.node m.value

variable {bindings : Bindings}

/-- A list of arguments each of which evaluates to its value evaluates to the list
of values. -/
theorem Expr.evalAll_nodes {items : List ExprMatch}
    (agree : ∀ item ∈ items, item.node.Evaluates bindings item.value) (line : Nat) :
    Expr.evalAll bindings line (items.map ExprMatch.node) =
      some (.ok (items.map ExprMatch.value)) := by
  induction items with
  | nil => rfl
  | cons item rest inductionHypothesis =>
    have first := agree item List.mem_cons_self line
    have others := inductionHypothesis fun x member => agree x (List.mem_cons_of_mem _ member)
    simp only [List.map_cons, Expr.evalAll, first, others]

/-! ### Expression parsers -/

namespace Parse

variable {sub : Dispatch} {c : Cursor} {m : ExprMatch}

theorem data_evaluates (found : data c = .ok (some m)) : m.node.Evaluates bindings m.value := by
  intro line
  rw [(data_eq_some found).1, Expr.eval]

theorem reference_evaluates (found : reference bindings c = .ok (some m)) :
    m.node.Evaluates bindings m.value := by
  obtain ⟨bound, isReference, -⟩ := reference_eq_some found
  intro line
  rw [isReference, Expr.eval, bound]
  rfl

theorem decimalComma_evaluates (found : decimalComma c = .ok (some m)) :
    m.node.Evaluates bindings m.value := by
  intro line
  rw [(decimalComma_eq_some found).1, Expr.eval]

theorem group_evaluates
    (innerAgrees : ∀ p m, sub.expression p = .ok (some m) → m.node.Evaluates bindings m.value)
    (found : group sub c = .ok (some m)) : m.node.Evaluates bindings m.value := by
  obtain ⟨inner, parsed, -, -, -, isGroup, sameValue⟩ := group_eq_some found
  intro line
  rw [isGroup, Expr.eval, sameValue]
  exact innerAgrees _ _ parsed line

theorem call_evaluates
    (itemsAgree : ∀ p m, sub.expression p = .ok (some m) → m.node.Evaluates bindings m.value)
    (found : call sub c = .ok (some m)) : m.node.Evaluates bindings m.value := by
  obtain ⟨items, -, -, listRead, called, isCall⟩ := call_eq_some found
  have argumentsAgree : ∀ item ∈ items, item.node.Evaluates bindings item.value := by
    intro item member
    obtain ⟨p, parsed⟩ := arguments_items listRead item member
    exact itemsAgree _ _ parsed
  intro line
  simp only [isCall, Expr.eval, Expr.evalAll_nodes argumentsAgree line,
    callBuiltin_ok_of_ok called line]

/-- Combining two matches that evaluate to their values gives one that does: the
operator succeeded on its own line, so it succeeds on every line. -/
theorem combine_evaluates {left right joined : ExprMatch} {op : BinaryOperator} {line : Nat}
    (leftAgrees : left.node.Evaluates bindings left.value)
    (rightAgrees : right.node.Evaluates bindings right.value)
    (joinedOk : combine left op right line = .ok joined) :
    joined.node.Evaluates bindings joined.value := by
  obtain ⟨applied, -, isBinary⟩ := combine_eq_ok joinedOk
  intro line'
  simp only [isBinary, Expr.eval, leftAgrees line', rightAgrees line',
    BinaryOperator.apply_ok_of_ok applied line']

theorem binaryOperation_evaluates {operand : Cursor → Attempt ExprMatch}
    (operandAgrees : ∀ p m, operand p = .ok (some m) → m.node.Evaluates bindings m.value)
    (found : binaryOperation operand c = .ok (some m)) : m.node.Evaluates bindings m.value := by
  obtain ⟨first, read, climbed⟩ := binaryOperation_eq_some found
  refine (climb_tighten_preserve (fun m => m.node.Evaluates bindings m.value) ?_ ?_).1
    1 first (operandAgrees _ _ read) m climbed
  · intro _ _ right _ _ read
    exact operandAgrees _ _ read
  · intro left op right joined leftAgrees rightAgrees joinedOk
    exact combine_evaluates leftAgrees rightAgrees joinedOk

end Parse

theorem ExprRule.run_evaluates {order : Order} {sub : Dispatch} (sound : sub.Sound order bindings)
    (rule : ExprRule) {c : Cursor} {m : ExprMatch} (found : rule.run bindings sub c = .ok (some m)) :
    m.node.Evaluates bindings m.value := by
  cases rule with
  | binaryOperation => exact Parse.binaryOperation_evaluates (sound.operand _) found
  | group => exact Parse.group_evaluates sound.expression found
  | function => exact Parse.call_evaluates sound.expression found
  | decimalComma => exact Parse.decimalComma_evaluates found
  | data => exact Parse.data_evaluates found
  | variableReference => exact Parse.reference_evaluates found

/-! ### Statement parsers -/

namespace Parse

variable {order : Order} {sub : Dispatch} {c : Cursor} {m : StmtMatch}

/-- The branch a condition selects yields its value by some rule; when there is no
branch, the test was false. -/
theorem selectedBranch_yields (sound : sub.Sound order bindings) {branchStart next : Cursor}
    {taken : Bool} {branch : Option StmtMatch}
    (found : selectedBranch sub c branchStart taken = .ok (branch, next)) :
    match branch with
    | some chosen => ∃ rule, Stmt.Yields bindings rule chosen.node chosen.value
    | none => taken = false := by
  cases branch with
  | some chosen =>
    obtain ⟨_, inner, parsed, sameNode, sameValue, -⟩ := selectedBranch_chosen found
    obtain ⟨rule, -, yields⟩ := sound.statement _ _ parsed
    show ∃ rule, Stmt.Yields bindings rule chosen.node chosen.value
    rw [sameNode, sameValue]
    exact ⟨rule, yields⟩
  | none =>
    rcases selectedBranch_eq_ok found with
      ⟨-, _, -, isSome, -⟩ | ⟨-, _, _, -, -, isSome, -⟩ | ⟨untaken, -⟩
    · cases isSome
    · cases isSome
    · exact untaken

theorem condition_yields (sound : sub.Sound order bindings) (found : condition sub c = .ok (some m)) :
    Stmt.Yields bindings .condition m.node m.value := by
  obtain ⟨conditionStart, thenToken, test, taken, branch, next, -, -, parsed, -, boolean, selected,
    rfl⟩ := condition_eq_some found
  obtain ⟨inner, innerParsed, rfl⟩ := Dispatch.expressionUntil_eq_some parsed
  -- the test is the boolean that selected the branch
  have tested : inner.node.Evaluates bindings (.boolean taken) := by
    have isBoolean : inner.value = .boolean taken := by
      cases isValue : inner.value <;> simp_all [Value.asBool?]
    exact isBoolean ▸ sound.expression _ _ innerParsed
  have branchYields := selectedBranch_yields sound selected
  cases branch with
  | none =>
    cases branchYields
    exact .untaken tested
  | some chosen =>
    obtain ⟨rule, yields⟩ := branchYields
    exact .taken tested yields

end Parse

open Parse in
theorem StmtRule.run_yields {order : Order} {sub : Dispatch} {c : Cursor} {m : StmtMatch}
    (sound : sub.Sound order bindings) (rule : StmtRule)
    (found : rule.run sub c = .ok (some m)) : Stmt.Yields bindings rule m.node m.value := by
  cases rule with
  | comment =>
    obtain ⟨-, rfl⟩ := comment_eq_some found
    exact .comment _
  | header =>
    obtain ⟨_, -, rfl⟩ := header_eq_some found
    exact .header _ _
  | condition => exact condition_yields sound found
  | declaration =>
    obtain ⟨_, value, -, -, parsed, rfl⟩ := declaration_eq_some found
    exact .declaration (sound.expression _ _ parsed)
  | conditionalExpression =>
    obtain ⟨value, op, parsed, -, rfl⟩ := conditionalExpression_eq_some found
    have evaluates := sound.expression _ _ parsed
    by_cases relational : op.isRelational
    · simp only [relational, if_true]
      exact .fastCondition evaluates
    · simp only [relational]
      exact .fastCalculation evaluates
  | numericalExpression =>
    obtain ⟨value, parsed, rfl⟩ := numericalExpression_eq_some found
    exact .calculation (sound.expression _ _ parsed)

/-! ### Every level of dispatch -/

namespace Dispatch

theorem exhausted_sound (order : Order) (bindings : Bindings) : exhausted.Sound order bindings where
  expression _ _ found := by cases found
  operand _ _ _ found := by cases found
  statement _ _ found := by cases found

theorem step_sound {order : Order} {sub : Dispatch} (sound : sub.Sound order bindings) :
    (step order bindings sub).Sound order bindings where
  expression c m found := by
    obtain ⟨_, rule, _, _, ran, rfl⟩ := firstMatch_eq_some found
    exact (ExprRule.run_evaluates sound rule ran :)
  operand after c m found := by
    obtain ⟨_, rule, _, _, ran, rfl⟩ := firstMatch_eq_some found
    exact (ExprRule.run_evaluates sound rule ran :)
  statement c m found := by
    obtain ⟨name, rule, _, registered, ran, rfl⟩ := firstMatch_eq_some found
    exact ⟨rule, registered, (StmtRule.run_yields sound rule ran :)⟩

theorem withLevels_sound (order : Order) (bindings : Bindings) (levels : Nat) :
    (withLevels order bindings levels).Sound order bindings :=
  withLevels_invariant order bindings (Sound order bindings) (exhausted_sound order bindings)
    (fun _ sound => step_sound sound) levels

end Dispatch

/-- Parsing computes the value of what it reads. At every nesting level, under any
order of parsers and any bindings, the tree of every expression match (by all
parsers, by those after a named one, or in a view cut short) evaluates on every
line to the value of the match, and every statement match yields its value, as
`Stmt.Yields` says, by a rule registered under the name it reports. -/
theorem parsed_values_agree_with_eval (order : Order) (bindings : Bindings) (levels : Nat) :
    (∀ c m, (Dispatch.withLevels order bindings levels).expression c = .ok (some m) →
      ∀ line, m.node.eval bindings line = some (.ok m.value)) ∧
    (∀ after c m, (Dispatch.withLevels order bindings levels).operand after c = .ok (some m) →
      ∀ line, m.node.eval bindings line = some (.ok m.value)) ∧
    (∀ c stop m,
      (Dispatch.withLevels order bindings levels).expressionUntil c stop = .ok (some m) →
        ∀ line, m.node.eval bindings line = some (.ok m.value)) ∧
    (∀ c m, (Dispatch.withLevels order bindings levels).statement c = .ok (some m) →
      ∃ rule, (m.parser, rule) ∈ order.statements ∧ Stmt.Yields bindings rule m.node m.value) := by
  have sound := Dispatch.withLevels_sound order bindings levels
  refine ⟨sound.expression, sound.operand, ?_, sound.statement⟩
  intro c stop m found
  obtain ⟨inner, parsed, rfl⟩ := Dispatch.expressionUntil_eq_some found
  exact (sound.expression _ _ parsed :)

end Reckon
