import Reckon.Proofs.Lines
import Reckon.Proofs.ErrorLine

/-!
Contract: the fast path for calculations changes no result.

The fast path reads an expression and keeps it only when a binary operator is at
its root. Where it keeps it, the calculation parser reads the same expression to
the same value and end; where it fails, that parser fails the same way
(`conditionalExpression_agrees`). Neither declares anything.

Two dispatches agree (`Dispatch.Agree`) when they read expressions alike and
their statement attempts agree (`StmtAttemptsAgree`): the same error, both
declining, or matches with the same value, end and declaration, whatever their
trees and parser names. Every statement parser keeps that agreement
(`StmtRule.run_agree`), and so does dropping the fast path from an order of
statement parsers in which the calculation parser comes right after it
(`Dispatch.withLevels_agree`). Every line of a document then has the same
result and declares the same variables (`readLine_agree`,
`visibleBindings_agree`).

Owns: `StmtAttemptsAgree`, `Dispatch.Agree`, `Registry.withoutStatement`, the
congruence of the expression parsers in the expression dispatch, and the
agreement of the built-in registry with itself without its fast path.

Does not own: how a document is read line by line (`Reckon.Proofs.Lines`).
-/

namespace Reckon

/-- Two attempts at a statement that agree on all that a line's result and its
variables depend on: the same error, both declining, or matches with the same
value, end and declaration, whatever their trees and parser names. -/
inductive StmtAttemptsAgree : Attempt StmtMatch → Attempt StmtMatch → Prop
  | error (e : InterpretError) : StmtAttemptsAgree (.error e) (.error e)
  | declined : StmtAttemptsAgree (.ok none) (.ok none)
  | found {m m' : StmtMatch} (sameValue : m.value = m'.value) (sameNext : m.next = m'.next)
      (sameDeclares : m.declares = m'.declares) : StmtAttemptsAgree (.ok (some m)) (.ok (some m'))

theorem StmtAttemptsAgree.refl : ∀ attempt : Attempt StmtMatch, StmtAttemptsAgree attempt attempt
  | .error e => .error e
  | .ok none => .declined
  | .ok (some _) => .found rfl rfl rfl

/-- The expression a statement computes, when it is a calculation or a condition
without a branch. -/
def Stmt.computed? : Stmt → Option Expr
  | .calculation expression _ => some expression
  | .condition test none _ => some test
  | _ => none

/-! ### The fast path against the calculation parser -/

namespace Parse

variable {sub : Dispatch} {c : Cursor}

/-- Where the fast path reads a statement, the calculation parser reads the same
expression to the same value and end, and neither declares anything; where the
fast path fails, the calculation parser fails the same way. -/
theorem conditionalExpression_agrees (sub : Dispatch) (c : Cursor) :
    (∀ m, conditionalExpression sub c = .ok (some m) →
      ∃ m', numericalExpression sub c = .ok (some m') ∧ m'.value = m.value ∧ m'.next = m.next ∧
        m'.node.computed? = m.node.computed? ∧ m.declares = none ∧ m'.declares = none) ∧
    (∀ e, conditionalExpression sub c = .error e → numericalExpression sub c = .error e) := by
  refine ⟨fun m found => ?_, fun e failed => ?_⟩
  · obtain ⟨value, op, parsed, -, rfl⟩ := conditionalExpression_eq_some found
    have read : numericalExpression sub c =
        .ok (some { node := .calculation value.node (c.spanTo value.next),
                    value := some value.value, next := value.next, parser := "",
                    declares := none }) := by
      rw [numericalExpression, parsed]
    refine ⟨_, read, rfl, rfl, ?_, rfl, rfl⟩
    cases op.isRelational <;> rfl
  · unfold conditionalExpression at failed
    unfold numericalExpression
    rcases parsed : sub.expression c with failure | _ | value <;> rw [parsed] at failed
    · exact failed
    · cases failed
    · -- the fast path fails only where reading the expression fails
      simp only at failed
      split at failed <;> cases failed

/-! ### Expression parsers read only the expression dispatch -/

variable {sub' : Dispatch}

theorem group_congr (sameExpression : sub.expression = sub'.expression) (c : Cursor) :
    group sub c = group sub' c := by
  simp only [group, sameExpression]

theorem argumentItems_congr (sameExpression : sub.expression = sub'.expression)
    (listStart : Cursor) (bound : Nat) (current : Cursor) (read : List ExprMatch) :
    argumentItems sub listStart bound current read =
      argumentItems sub' listStart bound current read := by
  -- one case per branch of the reader, in which both sides read the same item
  induction current, read using argumentItems.induct sub listStart bound with
  | case1 current read e parsed | case2 current read parsed =>
    rw [argumentItems.eq_1 sub, argumentItems.eq_1 sub', ← sameExpression, parsed]
  | case3 current read item parsed separator moved sameRest
  | case5 current read item parsed separator moved sameRest =>
    rw [argumentItems.eq_1 sub, argumentItems.eq_1 sub', ← sameExpression, parsed]
    simp only [separator, dif_pos moved, sameRest]
  | case4 current read item parsed separator stuck
  | case6 current read item parsed separator stuck =>
    rw [argumentItems.eq_1 sub, argumentItems.eq_1 sub', ← sameExpression, parsed]
    simp only [separator, dif_neg stuck]
  | case7 current read item parsed closing =>
    rw [argumentItems.eq_1 sub, argumentItems.eq_1 sub', ← sameExpression, parsed]
    simp only [closing]
  | case8 current read item parsed notComma notSemicolon notClosing =>
    rw [argumentItems.eq_1 sub, argumentItems.eq_1 sub', ← sameExpression, parsed]
    split <;> simp_all

theorem call_congr (sameExpression : sub.expression = sub'.expression) (c : Cursor) :
    call sub c = call sub' c := by
  simp only [call, arguments, argumentItems_congr sameExpression]

end Parse

/-- An expression rule reads only the expression entry points of the dispatch. -/
theorem ExprRule.run_congr (rule : ExprRule) (bindings : Bindings) {sub sub' : Dispatch}
    (sameExpression : sub.expression = sub'.expression) (sameOperand : sub.operand = sub'.operand)
    (c : Cursor) : rule.run bindings sub c = rule.run bindings sub' c := by
  cases rule <;> simp only [ExprRule.run, sameOperand, Parse.group_congr sameExpression,
    Parse.call_congr sameExpression]

/-! ### Agreeing dispatches -/

/-- Two dispatches that read expressions alike and whose statement attempts
agree everywhere. -/
structure Dispatch.Agree (d d' : Dispatch) : Prop where
  expression : d.expression = d'.expression
  operand : d.operand = d'.operand
  statement : ∀ c, StmtAttemptsAgree (d.statement c) (d'.statement c)

namespace Dispatch

variable {d d' : Dispatch}

theorem Agree.expressionUntil (agree : d.Agree d') (c : Cursor) (stop : TokenKind) :
    d.expressionUntil c stop = d'.expressionUntil c stop := by
  simp only [Dispatch.expressionUntil, agree.expression]

theorem Agree.statementUntil (agree : d.Agree d') (c : Cursor) (stop : TokenKind) :
    StmtAttemptsAgree (d.statementUntil c stop) (d'.statementUntil c stop) := by
  unfold Dispatch.statementUntil
  have agreeing := agree.statement (c.until stop)
  generalize d.statement (c.until stop) = attempt at agreeing ⊢
  generalize d'.statement (c.until stop) = attempt' at agreeing ⊢
  cases agreeing with
  | error e => exact .error e
  | declined => exact .declined
  | found sameValue sameNext sameDeclares =>
    exact .found sameValue (by simp only [sameNext]) sameDeclares

end Dispatch

namespace Parse

variable {d d' : Dispatch} {c : Cursor}

/-- Agreeing dispatches select agreeing branches, ending at the same place. -/
theorem selectedBranch_agree (agree : d.Agree d') (branchStart : Cursor) (taken : Bool) :
    (∃ e, selectedBranch d c branchStart taken = .error e ∧
        selectedBranch d' c branchStart taken = .error e) ∨
      ∃ branch branch' next, selectedBranch d c branchStart taken = .ok (branch, next) ∧
        selectedBranch d' c branchStart taken = .ok (branch', next) ∧
        StmtAttemptsAgree (.ok branch) (.ok branch') := by
  unfold selectedBranch
  cases taken with
  | true =>
    simp only [if_true]
    have agreeing := agree.statementUntil branchStart .elseKw
    generalize d.statementUntil branchStart .elseKw = attempt at agreeing ⊢
    generalize d'.statementUntil branchStart .elseKw = attempt' at agreeing ⊢
    cases agreeing with
    | error e => exact .inl ⟨e, rfl, rfl⟩
    | declined => exact .inl ⟨_, rfl, rfl⟩
    | found sameValue sameNext sameDeclares =>
      simp only
      rw [sameNext]
      exact .inr ⟨_, _, _, rfl, rfl, .found sameValue sameNext sameDeclares⟩
  | false =>
    simp only [Bool.false_eq_true, if_false]
    cases branchStart.seek? .elseKw with
    | none => exact .inr ⟨none, none, _, rfl, rfl, .declined⟩
    | some elseToken =>
      simp only
      have agreeing := agree.statement elseToken.advance
      generalize d.statement elseToken.advance = attempt at agreeing ⊢
      generalize d'.statement elseToken.advance = attempt' at agreeing ⊢
      cases agreeing with
      | error e => exact .inl ⟨e, rfl, rfl⟩
      | declined => exact .inl ⟨_, rfl, rfl⟩
      | found sameValue sameNext sameDeclares =>
        simp only
        rw [sameNext]
        exact .inr ⟨_, _, _, rfl, rfl, .found sameValue sameNext sameDeclares⟩

/-- A condition read by agreeing dispatches: the same test selects agreeing
branches, so the statements agree. -/
theorem condition_agree (agree : d.Agree d') (c : Cursor) :
    StmtAttemptsAgree (condition d c) (condition d' c) := by
  unfold condition
  simp only [agree.expressionUntil]
  -- both sides read the same test; they differ only in the branch read
  cases c.skip? .ifKw true with
  | none => exact .declined
  | some conditionStart =>
    simp only
    cases conditionStart.seek? .thenKw with
    | none => exact .declined
    | some thenToken =>
      simp only
      cases d'.expressionUntil conditionStart .thenKw with
      | error e => exact .error e
      | ok test =>
        cases test with
        | none => exact .declined
        | some test =>
          simp only
          split
          · exact .declined
          · cases test.value.asBool? with
            | none => exact .declined
            | some taken =>
              rcases selectedBranch_agree agree (c := c) thenToken.advance taken with
                ⟨e, failed, failed'⟩ | ⟨branch, branch', next, selected, selected', branchesAgree⟩
              · simp only [failed, failed']
                exact .error e
              · simp only [selected, selected']
                cases branchesAgree with
                | declined => exact .found rfl rfl rfl
                | found sameValue _ sameDeclares =>
                  exact .found (by simp only [Option.bind_some, sameValue])
                    rfl (by simp only [Option.bind_some, sameDeclares])

end Parse

open Parse in
/-- Every statement rule keeps the agreement of the dispatch it reads with. -/
theorem StmtRule.run_agree {d d' : Dispatch} (agree : d.Agree d') (rule : StmtRule) (c : Cursor) :
    StmtAttemptsAgree (rule.run d c) (rule.run d' c) := by
  cases rule with
  | condition => exact condition_agree agree c
  | comment | header => exact StmtAttemptsAgree.refl _
  | declaration | conditionalExpression | numericalExpression =>
    simp only [StmtRule.run, Parse.declaration, Parse.conditionalExpression,
      Parse.numericalExpression, agree.expression]
    exact StmtAttemptsAgree.refl _

/-! ### Dropping the fast path -/

/-- The name a dispatch gives a statement match: that of the parser that read it. -/
abbrev labelStatement (found : StmtMatch) (name : String) : StmtMatch :=
  { found with parser := name }

/-- Statement parsers run in the same order with agreeing results give agreeing
first matches. -/
theorem firstMatch_agree {run run' : StmtRule → Attempt StmtMatch}
    (pointwise : ∀ rule, StmtAttemptsAgree (run rule) (run' rule)) :
    ∀ rules : List (String × StmtRule),
      StmtAttemptsAgree (firstMatch run labelStatement rules) (firstMatch run' labelStatement rules)
  | [] => .declined
  | (name, rule) :: rest => by
    simp only [firstMatch]
    have agreeing := pointwise rule
    generalize run rule = attempt at agreeing ⊢
    generalize run' rule = attempt' at agreeing ⊢
    cases agreeing with
    | error e => exact .error e
    | declined => exact firstMatch_agree pointwise rest
    | found sameValue sameNext sameDeclares => exact .found sameValue sameNext sameDeclares

open Parse in
/-- Dropping the fast path from right before the calculation parser keeps the
first match in agreement: where the fast path declines the calculation parser
runs in both orders, and otherwise it agrees with the fast path. -/
theorem firstMatch_drop_fastPath {d d' : Dispatch} (agree : d.Agree d') (c : Cursor)
    (fastPath calculation : String) :
    ∀ pre post : List (String × StmtRule),
      StmtAttemptsAgree
        (firstMatch (fun rule => rule.run d c) labelStatement
          (pre ++ (fastPath, .conditionalExpression) :: (calculation, .numericalExpression) :: post))
        (firstMatch (fun rule => rule.run d' c) labelStatement
          (pre ++ (calculation, .numericalExpression) :: post))
  | [], post => by
    have sameCalculation : numericalExpression d' c = numericalExpression d c := by
      simp only [numericalExpression, agree.expression]
    obtain ⟨kept, failing⟩ := conditionalExpression_agrees d c
    rw [List.nil_append, List.nil_append]
    rcases attempt : conditionalExpression d c with e | _ | m
    · -- the fast path fails, and so does the calculation parser
      have calculationFails : StmtRule.numericalExpression.run d' c = .error e :=
        sameCalculation.trans (failing e attempt)
      rw [firstMatch_cons_error (fun rule : StmtRule => rule.run d c) StmtRule.conditionalExpression attempt,
        firstMatch_cons_error (fun rule : StmtRule => rule.run d' c) StmtRule.numericalExpression calculationFails]
      exact .error e
    · -- the fast path declines: the calculation parser runs in both orders
      rw [firstMatch_cons_declined (fun rule : StmtRule => rule.run d c) StmtRule.conditionalExpression attempt]
      exact firstMatch_agree (StmtRule.run_agree agree · c) ((calculation, .numericalExpression) :: post)
    · -- the fast path keeps the expression, which the calculation parser reads alike
      obtain ⟨m', read, sameValue, sameNext, -, noDeclaration, noDeclaration'⟩ := kept m attempt
      have calculationReads : StmtRule.numericalExpression.run d' c = .ok (some m') :=
        sameCalculation.trans read
      rw [firstMatch_cons_found (fun rule : StmtRule => rule.run d c) StmtRule.conditionalExpression attempt,
        firstMatch_cons_found (fun rule : StmtRule => rule.run d' c) StmtRule.numericalExpression calculationReads]
      exact .found sameValue.symm sameNext.symm (noDeclaration.trans noDeclaration'.symm)
  | (name, rule) :: pre, post => by
    simp only [List.cons_append, firstMatch]
    have agreeing := StmtRule.run_agree agree rule c
    generalize rule.run d c = attempt at agreeing ⊢
    generalize rule.run d' c = attempt' at agreeing ⊢
    cases agreeing with
    | error e => exact .error e
    | declined => exact firstMatch_drop_fastPath agree c fastPath calculation pre post
    | found sameValue sameNext sameDeclares => exact .found sameValue sameNext sameDeclares

/-- `o'` is `o` without its fast path, which stands right before the calculation
parser; the expression parsers are the same. -/
structure Order.DropsFastPath (o o' : Order) : Prop where
  expressions : o.expressions = o'.expressions
  statements : ∃ pre post fastPath calculation,
    o.statements = pre ++ (fastPath, .conditionalExpression) :: (calculation, .numericalExpression) :: post ∧
    o'.statements = pre ++ (calculation, .numericalExpression) :: post

namespace Dispatch

variable {o o' : Order} {bindings : Bindings}

theorem step_agree (drops : o.DropsFastPath o') {d d' : Dispatch} (agree : d.Agree d') :
    (step o bindings d).Agree (step o' bindings d') where
  expression := by
    funext c
    simp only [step, drops.expressions, ExprRule.run_congr _ bindings agree.expression agree.operand c]
  operand := by
    funext after c
    simp only [step, Order.expressionsAfter, drops.expressions,
      ExprRule.run_congr _ bindings agree.expression agree.operand c]
  statement c := by
    obtain ⟨pre, post, fastPath, calculation, spliced, dropped⟩ := drops.statements
    simp only [step, spliced, dropped]
    exact firstMatch_drop_fastPath agree c fastPath calculation pre post

/-- At every nesting level, the dispatch with the fast path agrees with the one
without it. -/
theorem withLevels_agree (drops : o.DropsFastPath o') (bindings : Bindings) :
    ∀ levels, (withLevels o bindings levels).Agree (withLevels o' bindings levels)
  | 0 => ⟨rfl, rfl, fun _ => StmtAttemptsAgree.refl _⟩
  | levels + 1 => step_agree drops (withLevels_agree drops bindings levels)

end Dispatch

/-! ### Lines and documents -/

variable {o o' : Order}

/-- A line read with and without the fast path has the same result and declares
the same variable. -/
theorem readLine_agree (drops : o.DropsFastPath o') (bindings : Bindings) (c : Cursor) :
    (readLine o bindings c).1.1 = (readLine o' bindings c).1.1 ∧
      (readLine o bindings c).2 = (readLine o' bindings c).2 := by
  have agreeing := (Dispatch.withLevels_agree drops bindings maxNestingDepth).statement c
  unfold readLine Order.dispatch
  split
  · exact ⟨rfl, rfl⟩
  · generalize (Dispatch.withLevels o bindings maxNestingDepth).statement c = attempt at agreeing ⊢
    generalize (Dispatch.withLevels o' bindings maxNestingDepth).statement c = attempt' at agreeing ⊢
    cases agreeing with
    | error e => exact ⟨rfl, rfl⟩
    | declined => exact ⟨rfl, rfl⟩
    | found sameValue sameNext sameDeclares =>
      simp only [sameValue, sameNext, sameDeclares]
      split <;> exact ⟨rfl, rfl⟩

/-- The variables in effect at every line are the same with and without the fast
path. -/
theorem visibleBindings_agree (drops : o.DropsFastPath o') (stream : TokenStream) :
    ∀ index, visibleBindings o stream index = visibleBindings o' stream index
  | 0 => rfl
  | index + 1 => by
    have before := visibleBindings_agree drops stream index
    simp only [visibleBindings]
    cases stream.line? index with
    | none => exact before
    | some c =>
      simp only
      rw [before, (readLine_agree drops _ c).2]

theorem lineOutcome_agree (drops : o.DropsFastPath o') (stream : TokenStream) (index : Nat) :
    (lineOutcome o stream index).map (fun l => (l.line, l.result)) =
      (lineOutcome o' stream index).map (fun l => (l.line, l.result)) := by
  unfold lineOutcome
  cases stream.line? index with
  | none => simp only [Option.map_none]
  | some c =>
    simp only [Option.map_some, visibleBindings_agree drops stream index]
    rw [(readLine_agree drops _ c).1]

/-! ### The built-in registry without its fast path -/

/-- A registry without the statement parser registered as `name`: the parser
stays in the table and is left out of every order. -/
def Registry.withoutStatement (r : Registry) (name : String) : Registry :=
  let keep (index : Nat) : Bool := (r.statements.parsers[index]?.map Descriptor.name) != some name
  { r with
    statements := { r.statements with
      partitions := r.statements.partitions.map fun tagged => (tagged.1, tagged.2.filter keep)
      fallback := r.statements.fallback.filter keep } }

/-- A set of parsers without culture partitions has one order for every culture. -/
theorem ParserSet.ordered_of_partitions_nil {ρ : Type} {set : ParserSet ρ}
    (noPartitions : set.partitions = []) (culture : String) :
    set.ordered culture = set.ordered "" := by
  have resolved : ∀ culture, set.resolve culture = set.fallback := by
    intro culture
    simp only [ParserSet.resolve, noPartitions, List.lookup_nil]
    split <;> rfl
  simp only [ParserSet.ordered, resolved]

/-- The statement parsers of the built-in registry apply to every culture, in the
order comment, header, condition, declaration, fast path and calculation; without
the fast path the calculation parser is last. -/
theorem builtin_statement_orders :
    (RegistryBuilder.builtin.build).toOption.map (fun r =>
        (r.statements.partitions, r.statements.ordered "",
          (r.withoutStatement "ConditionalExpression").statements.ordered "")) =
      some ([],
        [("Comment", .comment), ("Header", .header), ("ConditionStatement", .condition),
          ("VariableDeclaration", .declaration), ("ConditionalExpression", .conditionalExpression),
          ("NumericalExpression", .numericalExpression)],
        [("Comment", .comment), ("Header", .header), ("ConditionStatement", .condition),
          ("VariableDeclaration", .declaration), ("NumericalExpression", .numericalExpression)]) := by
  decide +kernel

/-- The fast path for calculations never changes a result. Where it reads a
statement, the calculation parser reads the same expression to the same value
and end; where it fails, the calculation parser fails the same way; neither
declares anything. And the built-in registry interprets every document, in every
culture, to the same line results and final variables as the built-in registry
without its fast path, in which the calculation parser is last. -/
theorem conditional_fast_path_changes_no_result :
    (∀ (sub : Dispatch) (c : Cursor),
      (∀ m, Parse.conditionalExpression sub c = .ok (some m) →
        ∃ m', Parse.numericalExpression sub c = .ok (some m') ∧ m'.value = m.value ∧
          m'.next = m.next ∧ m'.node.computed? = m.node.computed? ∧ m.declares = none ∧
          m'.declares = none) ∧
      (∀ e, Parse.conditionalExpression sub c = .error e →
        Parse.numericalExpression sub c = .error e)) ∧
    ∃ r, RegistryBuilder.builtin.build = .ok r ∧ ∀ text culture,
      let r' := r.withoutStatement "ConditionalExpression"
      (r'.order culture).statements =
          (r.order culture).statements.filter (·.1 != "ConditionalExpression") ∧
        (r'.order culture).statements.getLast? = some ("NumericalExpression", .numericalExpression) ∧
        ∃ d d', r.interpret text culture false = .ok d ∧ r'.interpret text culture false = .ok d' ∧
          d.lines.map (fun l => (l.line, l.result)) = d'.lines.map (fun l => (l.line, l.result)) ∧
          d.bindings = d'.bindings := by
  refine ⟨Parse.conditionalExpression_agrees, ?_⟩
  obtain ⟨r, built, orders⟩ := Option.map_eq_some_iff.mp builtin_statement_orders
  simp only [Prod.mk.injEq] at orders
  obtain ⟨noPartitions, statements, statements'⟩ := orders
  refine ⟨r, Except.toOption_eq_some.mp built, fun text culture => ?_⟩
  -- the statement orders do not depend on the culture
  have ordered : (r.order culture).statements = r.statements.ordered "" :=
    ParserSet.ordered_of_partitions_nil noPartitions culture
  have ordered' : ((r.withoutStatement "ConditionalExpression").order culture).statements =
      (r.withoutStatement "ConditionalExpression").statements.ordered "" :=
    ParserSet.ordered_of_partitions_nil (by simp only [Registry.withoutStatement, noPartitions,
      List.map_nil]) culture
  rw [statements] at ordered
  rw [statements'] at ordered'
  have drops : (r.order culture).DropsFastPath
      ((r.withoutStatement "ConditionalExpression").order culture) :=
    ⟨rfl, [("Comment", .comment), ("Header", .header), ("ConditionStatement", .condition),
      ("VariableDeclaration", .declaration)], [], _, _, ordered, ordered'⟩
  refine ⟨by rw [ordered, ordered']; rfl, by rw [ordered']; rfl, _, _, interpret_eq r text culture,
    interpret_eq _ text culture, ?_, visibleBindings_agree drops _ _⟩
  simp only [List.map_filterMap]
  exact congrArg (fun outcome => (List.range _).filterMap outcome)
    (funext (lineOutcome_agree drops _))

end Reckon
