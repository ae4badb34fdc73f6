import Reckon.Document
import Reckon.Proofs.Dispatch

/-!
Contract: a pass reads what the pure dispatch reads under the pass's variables, and its state
changes only where a statement is read, by the declaration that statement carries.

From any state, an expression entry point returns what the pure dispatch returns and leaves the
state as it found it, whatever it returns. A statement entry point does the same, except that
when it reads a statement the variables afterwards are those before with the statement's
declaration applied; the depth comes back to what it was either way. The pure dispatch it
agrees with has the state's variables and as many levels as both the recursion and the depth
limit leave (`Interp.withLevels_reads`).

The induction is on the levels. One level is `Interp.nest` around the parsers in order
(`Interp.nest_runFrom`, `Interp.firstMatch_runFrom`); each parser reads through the entry points
of the level below, so its lemma takes what those read as a hypothesis (`Interp.Entries.Reads`)
and follows the parser's own steps with the bind lemma. The parsers that bind or read variables
are the two places where the state enters: a declaration binds its name only after its value
was read, as the last step before it returns a match (`Interp.declaration_runFrom`), and a
condition declares what its branch declared (`Interp.condition_runFrom`).

A line of a pass and a whole pass are then `readLine` and `readLines`
(`Interp.line_runFrom`, `Interp.lines_run`, `Registry.interpret_not_cancelled`).

Owns: `Interp.runFrom`, `Interpretation.declaring`, `Interp.Entries.Reads` and the facts above.
Does not own: what the pure dispatch reads (`Reckon.Proofs.Dispatch`), what a statement
declares (`Reckon.Proofs.Declarations`).
-/

set_option autoImplicit false

namespace Reckon

/-- The state after a statement attempt from `s`: the declaration of what it read applied to
the variables, or `s` itself when it failed or read nothing. -/
def Interpretation.declaring (s : Interpretation) : Attempt StmtMatch → Interpretation
  | .ok (some m) => { s with bindings := s.bindings.apply m.declares }
  | _ => s

namespace Interpretation

/-- The declaration of a match does not depend on the parser it is credited to. -/
theorem declaring_relabelled (s : Interpretation) (m : StmtMatch) (name : String) :
    s.declaring (.ok (some { m with parser := name })) = s.declaring (.ok (some m)) := rfl

/-- A statement attempt never changes the depth. -/
theorem declaring_depth (s : Interpretation) (r : Attempt StmtMatch) :
    (s.declaring r).depth = s.depth := by
  rcases r with _ | _ | m <;> rfl

/-- A statement attempt that fails or reads nothing leaves the state as it was. -/
theorem declaring_of_not_read (s : Interpretation) {r : Attempt StmtMatch}
    (notRead : ∀ m, r ≠ .ok (some m)) : s.declaring r = s := by
  rcases r with _ | _ | m
  · rfl
  · rfl
  · exact absurd rfl (notRead m)

/-- A statement attempt made one dispatch deeper declares the same once the depth is given back. -/
theorem declaring_nested (s : Interpretation) (r : Attempt StmtMatch) :
    let t := ({ s with depth := s.depth + 1 } : Interpretation).declaring r
    { t with depth := t.depth - 1 } = s.declaring r := by
  rcases r with _ | _ | m <;> rfl

end Interpretation

namespace Interp

variable {α β : Type}

/-! ### Running an action from a state -/

/-- What an action returns from a state, and the state it leaves. -/
def runFrom (a : Interp α) (s : Interpretation) : Except InterpretError α × Interpretation :=
  a.run.run s

theorem runFrom_bind (a : Interp α) (f : α → Interp β) (s : Interpretation) :
    (a >>= f).runFrom s = match a.runFrom s with
      | (.ok x, s') => (f x).runFrom s'
      | (.error e, s') => (.error e, s') := by
  simp only [runFrom, ExceptT.run_bind, StateT.run_bind]
  rcases a.run.run s with ⟨_ | x, s'⟩ <;> rfl

@[simp] theorem runFrom_pure (x : α) (s : Interpretation) :
    (pure x : Interp α).runFrom s = (.ok x, s) := rfl

@[simp] theorem runFrom_throw (e : InterpretError) (s : Interpretation) :
    (throw e : Interp α).runFrom s = (.error e, s) := rfl

@[simp] theorem runFrom_get (s : Interpretation) :
    (get : Interp Interpretation).runFrom s = (.ok s, s) := rfl

@[simp] theorem runFrom_modify (f : Interpretation → Interpretation) (s : Interpretation) :
    (modify f : Interp Unit).runFrom s = (.ok (), f s) := rfl

@[simp] theorem runFrom_lift (x : Except InterpretError α) (s : Interpretation) :
    (lift x).runFrom s = (x, s) := rfl

/-- Two steps that keep the state compute from it what the two pure steps compute. -/
theorem runFrom_bind_of_keeps {s : Interpretation} {a : Interp α} {x : Except InterpretError α}
    {f : α → Interp β} {g : α → Except InterpretError β} (first : a.runFrom s = (x, s))
    (rest : ∀ v, (f v).runFrom s = (g v, s)) : (a >>= f).runFrom s = (x >>= g, s) := by
  rw [runFrom_bind, first]
  cases x with
  | error e => rfl
  | ok v => exact rest v

/-! ### One level, given the level below -/

/-- Entry points that read from `s` what `d` reads: expressions keep the state, and a
statement read applies its declaration. -/
structure Entries.Reads (e : Entries) (d : Dispatch) (s : Interpretation) : Prop where
  expression : ∀ c, (e.expression c).runFrom s = (d.expression c, s)
  operand : ∀ name c, (e.operand name c).runFrom s = (d.operand name c, s)
  statement : ∀ c, (e.statement c).runFrom s = (d.statement c, s.declaring (d.statement c))

variable {sub : Entries} {d : Dispatch} {s : Interpretation}

theorem Entries.Reads.expressionUntil (reads : sub.Reads d s) (c : Cursor) (stop : TokenKind) :
    (sub.expressionUntil c stop).runFrom s = (d.expressionUntil c stop, s) := by
  apply runFrom_bind_of_keeps (reads.expression _)
  rintro (_ | found) <;> rfl

theorem Entries.Reads.statementUntil (reads : sub.Reads d s) (c : Cursor) (stop : TokenKind) :
    (sub.statementUntil c stop).runFrom s =
      (d.statementUntil c stop, s.declaring (d.statementUntil c stop)) := by
  unfold Entries.statementUntil Dispatch.statementUntil
  rw [runFrom_bind, reads.statement]
  rcases d.statement (c.until stop) with e | _ | found <;> rfl

theorem reference_runFrom (c : Cursor) :
    (reference c).runFrom s = (Parse.reference s.bindings c, s) := by
  simp only [reference, runFrom_bind, runFrom_get, runFrom_lift]

theorem group_runFrom (reads : sub.Reads d s) (c : Cursor) :
    (group sub c).runFrom s = (Parse.group d c, s) := by
  unfold group Parse.group
  cases c.skip? .lParen false with
  | none => rfl
  | some innerStart =>
    apply runFrom_bind_of_keeps (reads.expression innerStart)
    rintro (_ | inner)
    · rfl
    · dsimp only
      cases inner.next.skip? .rParen false <;> rfl

theorem argumentItems_runFrom (reads : sub.Reads d s) (listStart : Cursor) (bound : Nat)
    (current : Cursor) (read : List ExprMatch) :
    (argumentItems sub listStart bound current read).runFrom s =
      (Parse.argumentItems d listStart bound current read, s) := by
  -- the cases are those of the item read at `current` and of the token after it
  fun_induction Parse.argumentItems d listStart bound current read with
  | case1 current read e failed =>
    rw [argumentItems, runFrom_bind, reads.expression, failed]
  | case2 current read missing declined =>
    rw [argumentItems, runFrom_bind, reads.expression, declined]
    rfl
  | case3 current read item found separator moved ih
  | case5 current read item found separator moved ih =>
    rw [argumentItems, runFrom_bind, reads.expression, found]
    simp only [separator, dif_pos moved]
    exact ih
  | case4 current read missing item found separator stuck
  | case6 current read missing item found separator stuck =>
    rw [argumentItems, runFrom_bind, reads.expression, found]
    simp only [separator, dif_neg stuck]
    rfl
  | case7 current read item found closing =>
    rw [argumentItems, runFrom_bind, reads.expression, found]
    simp only [closing]
    rfl
  | case8 current read missing item found notComma notSemicolon notClosing =>
    rw [argumentItems, runFrom_bind, reads.expression, found]
    dsimp only
    -- the pass splits on the same token, and only its last branch is left
    split
    · exact absurd ‹_› notComma
    · exact absurd ‹_› notSemicolon
    · exact absurd ‹_› notClosing
    · rfl

theorem arguments_runFrom (reads : sub.Reads d s) (listStart : Cursor) :
    (arguments sub listStart).runFrom s = (Parse.arguments d listStart, s) := by
  unfold arguments Parse.arguments
  cases listStart.skip? .rParen false with
  | some after => rfl
  | none => exact argumentItems_runFrom reads listStart _ listStart []

theorem call_runFrom (reads : sub.Reads d s) (c : Cursor) :
    (call sub c).runFrom s = (Parse.call d c, s) := by
  unfold call Parse.call
  by_cases named : (c.isAt .word && Builtin.isName c.text) = true
  · simp only [named, Bool.not_true]
    cases c.advance.skip? .lParen false with
    | none => rfl
    | some listStart =>
      apply runFrom_bind_of_keeps (arguments_runFrom reads listStart)
      rintro ⟨items, next⟩
      cases callBuiltin c.text (items.map ExprMatch.value) c.line <;> rfl
  · simp only [named]
    rfl

section Chains

variable {operandIn : Cursor → Interp (Option ExprMatch)} {operand : Cursor → Attempt ExprMatch}

theorem climb_tighten_runFrom (operandKeeps : ∀ c, (operandIn c).runFrom s = (operand c, s))
    (bound : Nat) :
    (∀ p left,
      (climb operandIn bound p left).runFrom s = (Parse.climb operand bound p left, s)) ∧
    (∀ op right,
      (tighten operandIn bound op right).runFrom s = (Parse.tighten operand bound op right, s)) := by
  -- the induction follows the recursion of the pure functions; in each branch the pass reads
  -- the same operand from the same state, so it takes the same branch
  apply Parse.climb.mutual_induct operand bound
  · intro p left noOperator
    rw [climb, Parse.climb]
    simp only [noOperator]
    rfl
  · intro p left op onOperator binds e failed
    rw [climb, Parse.climb]
    simp only [onOperator, binds, if_true, runFrom_bind, operandKeeps, failed]
  · intro p left op onOperator binds declined
    rw [climb, Parse.climb]
    simp only [onOperator, binds, if_true, runFrom_bind, operandKeeps, declined]
    rfl
  · intro p left op onOperator binds right read progress e failed tightenRuns
    rw [climb, Parse.climb]
    simp only [onOperator, binds, if_true, runFrom_bind, operandKeeps, read, dif_pos progress,
      tightenRuns, failed]
  · intro p left op onOperator binds right read progress tightened tightenedOk e failed
      tightenRuns
    rw [climb, Parse.climb]
    simp only [onOperator, binds, if_true, runFrom_bind, operandKeeps, read, dif_pos progress,
      tightenRuns, tightenedOk, runFrom_lift, failed]
  · intro p left op onOperator binds right read progress tightened tightenedOk joined joinedOk
      moved tightenRuns climbRuns
    rw [climb, Parse.climb]
    simp only [onOperator, binds, if_true, runFrom_bind, operandKeeps, read, dif_pos progress,
      tightenRuns, tightenedOk, runFrom_lift, joinedOk, dif_pos moved]
    exact climbRuns
  · intro p left op onOperator binds right read progress tightened tightenedOk joined joinedOk
      stuck tightenRuns
    rw [climb, Parse.climb]
    simp only [onOperator, binds, if_true, runFrom_bind, operandKeeps, read, dif_pos progress,
      tightenRuns, tightenedOk, runFrom_lift, joinedOk, dif_neg stuck]
    rfl
  · intro p left op onOperator binds right read noProgress
    rw [climb, Parse.climb]
    simp only [onOperator, binds, if_true, runFrom_bind, operandKeeps, read, dif_neg noProgress]
    rfl
  · intro p left op onOperator loose
    rw [climb, Parse.climb]
    simp only [onOperator, loose, if_false]
    rfl
  · intro op right noOperator
    rw [tighten, Parse.tighten]
    simp only [noOperator]
    rfl
  · intro op right following onOperator tighter e failed climbRuns
    rw [tighten, Parse.tighten]
    simp only [onOperator, tighter, if_true, runFrom_bind, climbRuns, failed]
  · intro op right following onOperator tighter extended extendedOk moved climbRuns tightenRuns
    rw [tighten, Parse.tighten]
    simp only [onOperator, tighter, if_true, runFrom_bind, climbRuns, extendedOk, dif_pos moved]
    exact tightenRuns
  · intro op right following onOperator tighter extended extendedOk stuck climbRuns
    rw [tighten, Parse.tighten]
    simp only [onOperator, tighter, if_true, runFrom_bind, climbRuns, extendedOk, dif_neg stuck]
    rfl
  · intro op right following onOperator notTighter
    rw [tighten, Parse.tighten]
    simp only [onOperator, notTighter, if_false]
    rfl

theorem binaryOperation_runFrom (operandKeeps : ∀ c, (operandIn c).runFrom s = (operand c, s))
    (c : Cursor) :
    (binaryOperation operandIn c).runFrom s = (Parse.binaryOperation operand c, s) := by
  unfold binaryOperation Parse.binaryOperation
  rw [runFrom_bind, operandKeeps]
  rcases operand c with e | _ | first
  · rfl
  · rfl
  · dsimp only
    rw [runFrom_bind, (climb_tighten_runFrom operandKeeps c.stop).1]
    cases Parse.climb operand c.stop 1 first <;> rfl

end Chains

/-! ### Statements -/

/-- A declaration binds its name only once its value is read, as its last step: a declaration
that fails or declines leaves the state as it was. -/
theorem declaration_runFrom (reads : sub.Reads d s) (c : Cursor) :
    (declaration sub c).runFrom s = (Parse.declaration d c, s.declaring (Parse.declaration d c)) := by
  unfold declaration Parse.declaration
  by_cases word : c.isAt .word = true
  · simp only [word, Bool.not_true, Bool.false_eq_true, if_false]
    cases c.advance.skip? .equals false with
    | none => rfl
    | some valueStart =>
      dsimp only
      rw [runFrom_bind, reads.expression]
      rcases d.expression valueStart with e | _ | found <;> rfl
  · simp only [word]
    rfl

theorem conditionalExpression_runFrom (reads : sub.Reads d s) (c : Cursor) :
    (conditionalExpression sub c).runFrom s =
      (Parse.conditionalExpression d c, s.declaring (Parse.conditionalExpression d c)) := by
  unfold conditionalExpression Parse.conditionalExpression
  rw [runFrom_bind, reads.expression]
  rcases d.expression c with e | _ | found
  · rfl
  · rfl
  · dsimp only
    cases found.node.rootOperator? <;> rfl

theorem numericalExpression_runFrom (reads : sub.Reads d s) (c : Cursor) :
    (numericalExpression sub c).runFrom s =
      (Parse.numericalExpression d c, s.declaring (Parse.numericalExpression d c)) := by
  unfold numericalExpression Parse.numericalExpression
  rw [runFrom_bind, reads.expression]
  rcases d.expression c with e | _ | found <;> rfl

/-- The branch a condition selects is read by the statement dispatch, which may declare; a
missing branch fails before anything is declared. -/
theorem selectedBranch_runFrom (reads : sub.Reads d s) (c branchStart : Cursor) (taken : Bool) :
    (selectedBranch sub c branchStart taken).runFrom s =
      (Parse.selectedBranch d c branchStart taken,
        s.declaring ((Parse.selectedBranch d c branchStart taken).map Prod.fst)) := by
  unfold selectedBranch Parse.selectedBranch
  cases taken with
  | true =>
    simp only [if_true]
    rw [runFrom_bind, reads.statementUntil]
    rcases d.statementUntil branchStart .elseKw with e | _ | branch <;> rfl
  | false =>
    simp only [Bool.false_eq_true, if_false]
    cases branchStart.seek? .elseKw with
    | none => rfl
    | some elseToken =>
      dsimp only
      rw [runFrom_bind, reads.statement]
      rcases d.statement elseToken.advance with e | _ | branch <;> rfl

theorem condition_runFrom (reads : sub.Reads d s) (c : Cursor) :
    (condition sub c).runFrom s = (Parse.condition d c, s.declaring (Parse.condition d c)) := by
  unfold condition Parse.condition
  cases c.skip? .ifKw true with
  | none => rfl
  | some conditionStart =>
    dsimp only
    cases conditionStart.seek? .thenKw with
    | none => rfl
    | some thenToken =>
      dsimp only
      rw [runFrom_bind, reads.expressionUntil]
      rcases d.expressionUntil conditionStart .thenKw with e | _ | test
      · rfl
      · rfl
      · by_cases same : test.next.sameSpot thenToken = true
        · simp only [same, Bool.not_true, Bool.false_eq_true, if_false]
          cases test.value.asBool? with
          | none => rfl
          | some taken =>
            dsimp only
            rw [runFrom_bind, selectedBranch_runFrom reads]
            -- the condition declares what its branch declared, and nothing without a branch
            rcases Parse.selectedBranch d c thenToken.advance taken with e | ⟨_ | branch, next⟩ <;>
              rfl
        · simp only [same]
          rfl

end Interp

theorem ExprRule.runIn_runFrom {sub : Interp.Entries} {d : Dispatch} {s : Interpretation}
    (reads : sub.Reads d s) (rule : ExprRule) (c : Cursor) :
    (rule.runIn sub c).runFrom s = (rule.run s.bindings d c, s) := by
  cases rule with
  | binaryOperation => exact Interp.binaryOperation_runFrom (reads.operand _) c
  | group => exact Interp.group_runFrom reads c
  | function => exact Interp.call_runFrom reads c
  | decimalComma => rfl
  | data => rfl
  | variableReference => exact Interp.reference_runFrom c

theorem StmtRule.runIn_runFrom {sub : Interp.Entries} {d : Dispatch} {s : Interpretation}
    (reads : sub.Reads d s) (rule : StmtRule) (c : Cursor) :
    (rule.runIn sub c).runFrom s = (rule.run d c, s.declaring (rule.run d c)) := by
  cases rule with
  | comment =>
    show (Parse.comment c, s) = (Parse.comment c, s.declaring (Parse.comment c))
    unfold Parse.comment
    split <;> rfl
  | header =>
    show (Parse.header c, s) = (Parse.header c, s.declaring (Parse.header c))
    unfold Parse.header
    split <;> rfl
  | condition => exact Interp.condition_runFrom reads c
  | declaration => exact Interp.declaration_runFrom reads c
  | conditionalExpression => exact Interp.conditionalExpression_runFrom reads c
  | numericalExpression => exact Interp.numericalExpression_runFrom reads c

namespace Interp

/-! ### The levels -/

variable {ρ α : Type} {s : Interpretation}

/-- Trying rules in order from `s` reads what the pure rules read, when each rule does and the
state after an attempt is `s` unless it read a match. -/
theorem firstMatch_runFrom {run : ρ → Interp (Option α)} {pureRun : ρ → Attempt α}
    {label : α → String → α} (after : Attempt α → Interpretation)
    (runs : ∀ rule, (run rule).runFrom s = (pureRun rule, after (pureRun rule)))
    (failed : ∀ e, after (.error e) = s) (declined : after (.ok none) = s)
    (labelled : ∀ m name, after (.ok (some (label m name))) = after (.ok (some m))) :
    ∀ rules, (firstMatch run label rules).runFrom s =
      (Reckon.firstMatch pureRun label rules, after (Reckon.firstMatch pureRun label rules))
  | [] => by
    rw [firstMatch, Reckon.firstMatch, declined]
    rfl
  | (name, rule) :: rest => by
    rw [firstMatch, Reckon.firstMatch, runFrom_bind, runs rule]
    rcases pureRun rule with e | _ | found
    · rw [failed]
    · -- a rule that declines leaves `s`, where the next one starts
      rw [declined]
      exact firstMatch_runFrom after runs failed declined labelled rest
    · simp only [labelled]
      rfl

/-- A dispatch fails at the depth limit and leaves the state; below it, it runs its attempt one
level deeper and gives the level back, whatever the attempt returned. -/
theorem nest_runFrom (line : Nat) (a : Interp α) (s : Interpretation) :
    (nest line a).runFrom s =
      if maxNestingDepth ≤ s.depth then (.error (.parse (.nestingTooDeep line)), s)
      else
        let inner := a.runFrom { s with depth := s.depth + 1 }
        (inner.1, { inner.2 with depth := inner.2.depth - 1 }) := by
  by_cases full : maxNestingDepth ≤ s.depth
  · simp only [nest, runFrom_bind, runFrom_get, full, if_true, runFrom_throw]
  · simp only [nest, runFrom_bind, runFrom_get, full, if_false, runFrom_modify]
    rfl

theorem exhausted_reads : exhausted.Reads Dispatch.exhausted s :=
  ⟨fun _ => rfl, fun _ _ => rfl, fun _ => rfl⟩

section Below

variable {sub : Entries} {d : Dispatch}

/-- Below the depth limit, a dispatch over expression rules reads one level deeper what the
pure rules read, and gives the state back as it found it. -/
theorem nest_expressions_runFrom (below : ¬maxNestingDepth ≤ s.depth)
    (reads : sub.Reads d { s with depth := s.depth + 1 }) (c : Cursor)
    (rules : List (String × ExprRule)) :
    (nest c.line (firstMatch (fun rule => rule.runIn sub c)
        (fun found name => { found with parser := name }) rules)).runFrom s =
      (Reckon.firstMatch (fun rule => rule.run s.bindings d c)
        (fun found name => { found with parser := name }) rules, s) := by
  rw [nest_runFrom, if_neg below]
  dsimp only
  rw [firstMatch_runFrom (fun _ => _) (fun rule => ExprRule.runIn_runFrom reads rule c)
    (fun _ => rfl) rfl (fun _ _ => rfl)]
  rfl

/-- Below the depth limit, a dispatch over statement rules reads one level deeper what the
pure rules read, and gives the depth back with the declaration of what it read applied. -/
theorem nest_statements_runFrom (below : ¬maxNestingDepth ≤ s.depth)
    (reads : sub.Reads d { s with depth := s.depth + 1 }) (c : Cursor)
    (rules : List (String × StmtRule)) :
    (nest c.line (firstMatch (fun rule => rule.runIn sub c)
        (fun found name => { found with parser := name }) rules)).runFrom s =
      (Reckon.firstMatch (fun rule => rule.run d c)
          (fun found name => { found with parser := name }) rules,
        s.declaring (Reckon.firstMatch (fun rule => rule.run d c)
          (fun found name => { found with parser := name }) rules)) := by
  rw [nest_runFrom, if_neg below]
  dsimp only
  rw [firstMatch_runFrom _ (fun rule => StmtRule.runIn_runFrom reads rule c)
    (fun _ => rfl) rfl (Interpretation.declaring_relabelled _)]
  exact congrArg _ (Interpretation.declaring_nested s _)

end Below

/-- From any state, the entry points with `levels` levels left read what the pure dispatch of
the state's variables reads with as many levels as both the recursion and the depth limit
leave: expressions keep the state, and a statement read applies its declaration. -/
theorem withLevels_reads (order : Order) : ∀ levels (s : Interpretation),
    (withLevels order levels).Reads
      (Dispatch.withLevels order s.bindings (min levels (maxNestingDepth - s.depth))) s
  | 0, s => by
    rw [Nat.zero_min]
    exact exhausted_reads
  | levels + 1, s => by
    by_cases full : maxNestingDepth ≤ s.depth
    · -- the depth check fails every entry point, as the pure dispatch has no level left
      rw [show min (levels + 1) (maxNestingDepth - s.depth) = 0 by omega]
      refine ⟨fun c => ?_, fun name c => ?_, fun c => ?_⟩ <;>
        simp only [withLevels, step, nest_runFrom, if_pos full] <;> rfl
    · -- the nested reads are one level deeper, and the level is given back afterwards
      have sub := withLevels_reads order levels { s with depth := s.depth + 1 }
      rw [show min (levels + 1) (maxNestingDepth - s.depth) =
          min levels (maxNestingDepth - (s.depth + 1)) + 1 by omega, Dispatch.withLevels]
      exact ⟨fun c => nest_expressions_runFrom full sub c _,
        fun _ c => nest_expressions_runFrom full sub c _,
        fun c => nest_statements_runFrom full sub c _⟩

/-- With no dispatch under way, the entry points of a pass read what the top-level pure
dispatch of its variables reads. -/
theorem entries_reads (order : Order) (bindings : Bindings) :
    order.entries.Reads (order.dispatch bindings) { bindings } := by
  have reads := withLevels_reads order maxNestingDepth { bindings }
  rwa [Nat.sub_zero, Nat.min_self] at reads

/-! ### Lines and passes -/

/-- A line read in a pass with no dispatch under way has the outcome `readLine` gives under the
pass's variables, and leaves them with the declaration `readLine` reports applied. -/
theorem line_runFrom (order : Order) (bindings : Bindings) (c : Cursor) :
    LineResult.ofAttempt ((line order.entries c).runFrom { bindings }).1 =
        (readLine order bindings c).1 ∧
      ((line order.entries c).runFrom { bindings }).2 =
        { bindings := bindings.apply (readLine order bindings c).2 } := by
  unfold line readLine
  by_cases atEnd : c.atEnd = true
  · simp only [atEnd, if_true, runFrom_pure]
    exact ⟨rfl, rfl⟩
  · simp only [atEnd, Bool.false_eq_true, if_false]
    rw [runFrom_bind, (entries_reads order bindings).statement c]
    rcases (order.dispatch bindings).statement c with e | _ | found
    · exact ⟨rfl, rfl⟩
    · exact ⟨rfl, rfl⟩
    · -- the statement's declaration is made before the tokens after it are looked at
      dsimp only
      by_cases trailing : (!found.next.atEnd && !found.next.isAt .comment) = true
      · simp only [trailing, if_true, runFrom_bind, runFrom_throw]
        exact ⟨rfl, rfl⟩
      · simp only [trailing, Bool.false_eq_true, if_false, runFrom_pure]
        cases found.value <;> exact ⟨rfl, rfl⟩

/-- The lines of a pass, from `bindings` and no dispatch under way, are read as
`readLines` reads them, and the pass ends with the variables it reports. -/
theorem lines_run (order : Order) (stream : TokenStream) :
    ∀ indices (bindings : Bindings), (lines order stream indices).run { bindings } =
      ((readLines order stream bindings indices).1,
        { bindings := (readLines order stream bindings indices).2 })
  | [], _ => rfl
  | index :: rest, bindings => by
    rw [lines, readLines]
    cases stream.line? index with
    | none => rfl
    | some c =>
      obtain ⟨outcome, after⟩ := line_runFrom order bindings c
      have restRuns := lines_run order stream rest (bindings.apply (readLine order bindings c).2)
      simp only [StateT.run_bind]
      rw [show StateT.run (ExceptT.run (line order.entries c)) { bindings } =
        (line order.entries c).runFrom { bindings } from rfl]
      generalize (line order.entries c).runFrom { bindings } = ran at outcome after
      obtain ⟨result, _⟩ := ran
      dsimp only at outcome after
      subst after
      show ({ line := index + 1, result := (LineResult.ofAttempt result).1,
              parser := (LineResult.ofAttempt result).2 } :: ((lines order stream rest).run _).1,
            ((lines order stream rest).run _).2) = _
      rw [restRuns, outcome]

end Interp

/-- A pass that is not cancelled reads its document as `readLines` does from no variables, and
ends with the variables `readLines` reports. -/
theorem Registry.interpret_not_cancelled (r : Registry) (text culture : String) :
    r.interpret text culture false =
      .ok { lines := (readLines (r.order culture) (TokenStream.ofSource text) Bindings.empty
              (List.range (TokenStream.ofSource text).lineCount)).1,
            bindings := (readLines (r.order culture) (TokenStream.ofSource text) Bindings.empty
              (List.range (TokenStream.ofSource text).lineCount)).2 } := by
  rw [Registry.interpret, if_neg Bool.false_ne_true]
  dsimp only
  rw [Interp.lines_run]

end Reckon
