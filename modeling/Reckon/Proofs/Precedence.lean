import Reckon.Proofs.Grammar
import Reckon.Proofs.Dispatch
import Reckon.Proofs.ErrorLine

/-!
Contract: the binary parser reads a chain of operators exactly as the grammar
groups it.

After its first operand the parser meets a chain: for each operator in turn,
the attempt to read the operand after it (`Chain`). The chain goes on while
operands are read and ends where no operator follows, where an operator has no
operand after it, or with an attempt that fails. The parser's result is the
chain grouped by the grammar, with every join evaluated as the parser evaluates
it, left side first (`binaryOperation_eq_tree`); from that, its tree, its
value, where it ends and when it fails (`binaryOperation_reads_chain`), and the
same for the parser as the dispatch runs it (`binaryOperation_follows_grammar`).

Owns: `Chain`, `joinAttempts`, the simulation of `climb` and `tighten` by the
grammar (`climb_tighten_follow`), and the reading of the grouped result.

Does not own: the grammar (`Reckon.Proofs.Grammar`), or that operands advance
(`Reckon.Proofs.Dispatch`), which is the one fact about operands used here.
-/

namespace Reckon.Parse

open Grammar Cursor

/-- What the parser meets after an operand that ends at `here`, reading each
operand with `operand`: for each operator in turn, the attempt to read the
operand after it. The chain goes on while operands are read; it ends where no
operator follows, where an operator has no operand after it, or with an
attempt that fails. -/
inductive Chain (operand : Cursor → Attempt ExprMatch) :
    Cursor → List (BinaryOperator × Except InterpretError ExprMatch) → Prop
  | noOperator {here : Cursor} (absent : operatorAt? here = none) : Chain operand here []
  | dangling {here : Cursor} {op : BinaryOperator} (onOperator : operatorAt? here = some op)
      (declined : operand here.advance = .ok none) : Chain operand here []
  | fails {here : Cursor} {op : BinaryOperator} {e : InterpretError}
      (onOperator : operatorAt? here = some op) (failed : operand here.advance = .error e) :
      Chain operand here [(op, .error e)]
  | link {here : Cursor} {op : BinaryOperator} {right : ExprMatch}
      {rest : List (BinaryOperator × Except InterpretError ExprMatch)}
      (onOperator : operatorAt? here = some op) (read : operand here.advance = .ok (some right))
      (more : Chain operand right.next rest) : Chain operand here ((op, .ok right) :: rest)

variable {operand : Cursor → Attempt ExprMatch} {bound : Nat}

/-- The operand read after an operator ends after the operand before it. -/
theorem advances_past_operator (advances : ∀ p m, operand p = .ok (some m) → p.Advances m.next)
    {here : Cursor} {op : BinaryOperator} {right : ExprMatch}
    (onOperator : operatorAt? here = some op) (read : operand here.advance = .ok (some right)) :
    here.Advances right.next :=
  (advances_advance (operatorAt?_inside onOperator)).trans (advances _ _ read)

namespace Chain

variable {here : Cursor} {attempts : List (BinaryOperator × Except InterpretError ExprMatch)}

theorem eq_nil_of_absent (chain : Chain operand here attempts)
    (absent : operatorAt? here = none) : attempts = [] := by
  cases chain with
  | noOperator _ | dangling _ _ => rfl
  | fails onOperator _ | link onOperator _ _ =>
    rw [absent] at onOperator
    cases onOperator

/-- After an operator the chain is decided by the attempt to read the operand
that follows it. -/
theorem of_operator {op : BinaryOperator} (chain : Chain operand here attempts)
    (onOperator : operatorAt? here = some op) :
    match operand here.advance with
    | .error e => attempts = [(op, .error e)]
    | .ok none => attempts = []
    | .ok (some right) => ∃ rest, attempts = (op, .ok right) :: rest ∧ Chain operand right.next rest := by
  cases chain with
  | noOperator absent =>
    rw [absent] at onOperator
    cases onOperator
  | dangling onOperator' declined =>
    rw [declined]
  | fails onOperator' failed =>
    rw [onOperator] at onOperator'
    cases onOperator'
    rw [failed]
  | link onOperator' read more =>
    rw [onOperator] at onOperator'
    cases onOperator'
    rw [read]
    exact ⟨_, rfl, more⟩

/-- A chain starts with the operator under its cursor. -/
theorem head_operator {op : BinaryOperator} (chain : Chain operand here attempts)
    (onOperator : operatorAt? here = some op) : ∀ link ∈ attempts.head?, link.1 = op := by
  have decided := chain.of_operator onOperator
  intro link isHead
  split at decided
  · rw [decided] at isHead
    cases isHead
    rfl
  · rw [decided] at isHead
    cases isHead
  · obtain ⟨rest, rfl, -⟩ := decided
    cases isHead
    rfl

/-- Every cursor is followed by a chain, when every operand read advances. -/
theorem exists_of_advances (advances : ∀ p m, operand p = .ok (some m) → p.Advances m.next)
    (here : Cursor) : ∃ attempts, Chain operand here attempts := by
  cases onOperator : operatorAt? here with
  | none => exact ⟨[], .noOperator onOperator⟩
  | some op =>
    cases read : operand here.advance with
    | error e => exact ⟨_, .fails onOperator read⟩
    | ok result =>
      cases result with
      | none => exact ⟨[], .dangling onOperator read⟩
      | some right =>
        obtain ⟨rest, more⟩ := exists_of_advances advances right.next
        exact ⟨_, .link onOperator read more⟩
termination_by here.stop - here.index
decreasing_by
  have moved := advances_past_operator advances onOperator read
  have := moved.index_lt
  have := moved.stop_eq
  have := moved.le_stop
  omega

end Chain

/-- Two attempts joined as the parser joins them: an error on the left first, then
one on the right, then the operator, applied on the line the left side ends on. -/
def joinAttempts (left : Except InterpretError ExprMatch) (op : BinaryOperator)
    (right : Except InterpretError ExprMatch) : Except InterpretError ExprMatch := do
  let l ← left
  let r ← right
  combine l op r l.next.line

@[simp] theorem joinAttempts_error (e : InterpretError) (op : BinaryOperator)
    (right : Except InterpretError ExprMatch) : joinAttempts (.error e) op right = .error e := rfl

@[simp] theorem joinAttempts_ok_error (left : ExprMatch) (op : BinaryOperator) (e : InterpretError) :
    joinAttempts (.ok left) op (.error e) = .error e := rfl

@[simp] theorem joinAttempts_ok_ok (left right : ExprMatch) (op : BinaryOperator) :
    joinAttempts (.ok left) op (.ok right) = combine left op right left.next.line := rfl

/-- An error on the left of a chain is its result. -/
theorem tree_joinAttempts_error (levels : List Nat) (e : InterpretError)
    (links : List (BinaryOperator × Except InterpretError ExprMatch)) :
    tree joinAttempts levels (.error e) links = .error e :=
  tree_of_leftAbsorbing joinAttempts (.error e) (fun _ _ => rfl) levels links

/-! ### The simulation -/

/-- What `climb` does at level `p` from `left`, given the chain after it: its
result is the grouping of the attempts that bind at least at `p`, and it stops
before the others, having moved when it grouped any. -/
abbrev ClimbFollows (operand : Cursor → Attempt ExprMatch) (bound p : Nat) (left : ExprMatch) :
    Prop :=
  left.next.stop = bound → left.next.index ≤ bound →
    ∀ attempts, Chain operand left.next attempts →
      climb operand bound p left =
          tree joinAttempts (levelsFrom p) (.ok left) (attempts.takeWhile (bindsAtLeast p)) ∧
        ∀ r, climb operand bound p left = .ok r →
          Chain operand r.next (attempts.dropWhile (bindsAtLeast p)) ∧
            (attempts.takeWhile (bindsAtLeast p) ≠ [] → left.next.index < r.next.index)

/-- What `tighten` does after `op` from `right`, given the chain after it: its
result is the grouping of the attempts that bind more tightly than `op`, and it
stops before the others. -/
abbrev TightenFollows (operand : Cursor → Attempt ExprMatch) (bound : Nat) (op : BinaryOperator)
    (right : ExprMatch) : Prop :=
  right.next.stop = bound → right.next.index ≤ bound →
    ∀ attempts, Chain operand right.next attempts →
      tighten operand bound op right = tree joinAttempts (levelsFrom (op.precedence + 1))
          (.ok right) (attempts.takeWhile (bindsAtLeast (op.precedence + 1))) ∧
        ∀ r, tighten operand bound op right = .ok r →
          Chain operand r.next (attempts.dropWhile (bindsAtLeast (op.precedence + 1)))

section Simulation

variable (advances : ∀ p m, operand p = .ok (some m) → p.Advances m.next)

/-- A chain whose first operator binds more loosely than `p` has nothing to
group at `p`. -/
theorem Chain.takeWhile_eq_nil {here : Cursor} {op : BinaryOperator} {p : Nat}
    {attempts : List (BinaryOperator × Except InterpretError ExprMatch)}
    (chain : Chain operand here attempts) (onOperator : operatorAt? here = some op)
    (looser : op.precedence < p) : attempts.takeWhile (bindsAtLeast p) = [] := by
  have startsWith := chain.head_operator onOperator
  cases attempts with
  | nil => rfl
  | cons link rest =>
    have notBinding : ¬bindsAtLeast p link = true := by
      simp only [bindsAtLeast, startsWith link rfl, decide_eq_true_eq]
      omega
    rw [List.takeWhile_cons_of_neg notBinding]

include advances in
theorem climb_reaches {p : Nat} {left r : ExprMatch} (inside : left.next.index ≤ left.next.stop)
    (found : climb operand bound p left = .ok r) : left.next.Reaches r.next :=
  (climb_tighten_reach advances left.next).1 p left (Reaches.refl inside) r found

include advances in
theorem tighten_reaches {op : BinaryOperator} {right r : ExprMatch}
    (inside : right.next.index ≤ right.next.stop) (found : tighten operand bound op right = .ok r) :
    right.next.Reaches r.next :=
  (climb_tighten_reach advances right.next).2 op right (Reaches.refl inside) r found

/-- Where `climb` stops at once and nothing in the chain binds at its level, it
follows the grammar. -/
theorem climbFollows_of_stop {p : Nat} {left : ExprMatch}
    (stops : climb operand bound p left = .ok left)
    (nothingBinds : left.next.stop = bound → left.next.index ≤ bound →
      ∀ attempts, Chain operand left.next attempts → attempts.takeWhile (bindsAtLeast p) = []) :
    ClimbFollows operand bound p left := by
  intro atBound inside attempts chain
  have none := nothingBinds atBound inside attempts chain
  have rest := List.takeWhile_append_dropWhile (p := bindsAtLeast p) (l := attempts)
  rw [none, List.nil_append] at rest
  rw [stops, none, tree_nil]
  refine ⟨rfl, fun r found => ?_⟩
  cases found
  rw [rest]
  exact ⟨chain, fun nonempty => absurd rfl nonempty⟩

/-- Where `tighten` stops at once and nothing in the chain binds more tightly
than its operator, it follows the grammar. -/
theorem tightenFollows_of_stop {op : BinaryOperator} {right : ExprMatch}
    (stops : tighten operand bound op right = .ok right)
    (nothingBinds : right.next.stop = bound → right.next.index ≤ bound →
      ∀ attempts, Chain operand right.next attempts →
        attempts.takeWhile (bindsAtLeast (op.precedence + 1)) = []) :
    TightenFollows operand bound op right := by
  intro atBound inside attempts chain
  have none := nothingBinds atBound inside attempts chain
  have rest := List.takeWhile_append_dropWhile (p := bindsAtLeast (op.precedence + 1)) (l := attempts)
  rw [none, List.nil_append] at rest
  rw [stops, none, tree_nil]
  refine ⟨rfl, fun r found => ?_⟩
  cases found
  rw [rest]
  exact chain

include advances in
/-- After an operator that binds at `p` and the operand read after it, grouping
at `p` joins the left operand with what `tighten` makes of that operand, and goes
on with the chain after the tightened operand. -/
theorem tree_after_operand {p : Nat} {left right : ExprMatch} {op : BinaryOperator}
    {attempts : List (BinaryOperator × Except InterpretError ExprMatch)}
    (atBound : left.next.stop = bound) (onOperator : operatorAt? left.next = some op)
    (binds : p ≤ op.precedence) (read : operand left.next.advance = .ok (some right))
    (rightInside : right.next.index ≤ bound) (tightenFollows : TightenFollows operand bound op right)
    (chain : Chain operand left.next attempts) :
    ∃ after, attempts.dropWhile (bindsAtLeast p) = after.dropWhile (bindsAtLeast p) ∧
      tree joinAttempts (levelsFrom p) (.ok left) (attempts.takeWhile (bindsAtLeast p)) =
        tree joinAttempts (levelsFrom p)
          (joinAttempts (.ok left) op (tighten operand bound op right))
          (after.takeWhile (bindsAtLeast p)) ∧
      ∀ r, tighten operand bound op right = .ok r → Chain operand r.next after := by
  have decided := chain.of_operator onOperator
  rw [read] at decided
  obtain ⟨rest, rfl, more⟩ := decided
  have toRight := advances_past_operator advances onOperator read
  obtain ⟨tightened, tightenedChain⟩ :=
    tightenFollows (toRight.stop_eq.trans atBound) rightInside rest more
  have binding : bindsAtLeast p (op, (Except.ok right : Except InterpretError ExprMatch)) = true := by
    simpa only [bindsAtLeast, decide_eq_true_eq] using binds
  refine ⟨rest.dropWhile (bindsAtLeast (op.precedence + 1)), ?_, ?_, tightenedChain⟩
  · rw [List.dropWhile_cons_of_pos binding, dropWhile_bindsAtLeast_split (by omega)]
  · rw [tree_takeWhile_cons joinAttempts _ binds, tightened]

include advances in
/-- Precedence climbing is the grammar's grouping of the chain: `climb` at level
`p` groups the attempts that bind at least at `p`, and `tighten` after `op` those
that bind more tightly than `op`; each stops before the rest of the chain. -/
theorem climb_tighten_follow :
    (∀ p left, ClimbFollows operand bound p left) ∧
      (∀ op right, TightenFollows operand bound op right) := by
  -- the induction follows the recursion of the two functions; in each branch the
  -- chain after the current operand is inverted at the operator under the cursor
  apply climb.mutual_induct operand bound
  · -- climb: no operator follows
    intro p left absent
    apply climbFollows_of_stop
    · rw [climb]
      simp only [absent]
    · intro _ _ attempts chain
      rw [chain.eq_nil_of_absent absent, List.takeWhile_nil]
  · -- climb: the operand after the operator fails
    intro p left op onOperator binds e failed atBound inside attempts chain
    have decided := chain.of_operator onOperator
    rw [failed] at decided
    have climbed : climb operand bound p left = .error e := by
      rw [climb]
      simp only [onOperator, binds, failed, if_true]
    refine ⟨?_, fun r found => by rw [climbed] at found; cases found⟩
    rw [climbed, decided, tree_takeWhile_cons joinAttempts _ binds]
    simp only [List.takeWhile_nil, List.dropWhile_nil, tree_nil, joinAttempts_ok_error]
  · -- climb: no operand after the operator
    intro p left op onOperator binds declined
    apply climbFollows_of_stop
    · rw [climb]
      simp only [onOperator, binds, declined, if_true]
    · intro _ _ attempts chain
      have decided := chain.of_operator onOperator
      rw [declined] at decided
      rw [decided, List.takeWhile_nil]
  · -- climb: tightening the right operand fails
    intro p left op onOperator binds right read progress e failed tightenFollows atBound _
      attempts chain
    obtain ⟨_, _, grouped, _⟩ := tree_after_operand advances atBound onOperator binds read
      progress.2 tightenFollows chain
    have climbed : climb operand bound p left = .error e := by
      rw [climb]
      simp only [onOperator, binds, read, progress, failed, if_true, and_self, dite_true]
    refine ⟨?_, fun r found => by rw [climbed] at found; cases found⟩
    rw [climbed, grouped, failed, joinAttempts_ok_error, tree_joinAttempts_error]
  · -- climb: the operator fails on its two sides
    intro p left op onOperator binds right read progress tightened tightenedOk e failed
      tightenFollows atBound _ attempts chain
    obtain ⟨_, _, grouped, _⟩ := tree_after_operand advances atBound onOperator binds read
      progress.2 tightenFollows chain
    have climbed : climb operand bound p left = .error e := by
      rw [climb]
      simp only [onOperator, binds, read, progress, tightenedOk, failed, if_true, and_self,
        dite_true]
    refine ⟨?_, fun r found => by rw [climbed] at found; cases found⟩
    rw [climbed, grouped, tightenedOk, joinAttempts_ok_ok, failed, tree_joinAttempts_error]
  · -- climb: the operator is applied and climbing goes on from the joined operand
    intro p left op onOperator binds right read progress tightened tightenedOk joined joinedOk
      moved tightenFollows climbFollows atBound inside attempts chain
    obtain ⟨after, dropped, grouped, afterChain⟩ := tree_after_operand advances atBound
      onOperator binds read progress.2 tightenFollows chain
    have climbed : climb operand bound p left = climb operand bound p joined := by
      rw [climb]
      simp only [onOperator, binds, read, progress, tightenedOk, joinedOk, moved, if_true,
        and_self, dite_true]
    have joinedNext : joined.next = tightened.next := (combine_eq_ok joinedOk).2.1
    have toRight := advances_past_operator advances onOperator read
    have toTightened := tighten_reaches advances toRight.inside tightenedOk
    have joinedAtBound : joined.next.stop = bound := by
      rw [joinedNext, toTightened.stop_eq, toRight.stop_eq, atBound]
    obtain ⟨continued, rest⟩ := climbFollows joinedAtBound moved.2 after
      (joinedNext ▸ afterChain tightened tightenedOk)
    refine ⟨?_, fun r found => ?_⟩
    · rw [climbed, grouped, tightenedOk, joinAttempts_ok_ok, joinedOk]
      exact continued
    · rw [climbed] at found
      have toResult := climb_reaches advances (by rw [joinedAtBound]; exact moved.2) found
      refine ⟨dropped ▸ (rest r found).1, fun _ => ?_⟩
      have := toResult.index_le
      omega
  · -- climb: the joined operand ends where it began, which an operand read never does
    intro p left op onOperator binds right read progress tightened tightenedOk joined joinedOk
      stuck _ atBound _ _ _
    have toRight := advances_past_operator advances onOperator read
    have toTightened := tighten_reaches advances toRight.inside tightenedOk
    have joinedNext : joined.next = tightened.next := (combine_eq_ok joinedOk).2.1
    have := toTightened.index_le
    have := toTightened.le_stop
    have := toRight.stop_eq
    rw [← joinedNext] at *
    omega
  · -- climb: the operand read does not advance, which never happens
    intro p left op onOperator _ right read noProgress atBound _ _ _
    have toRight := advances_past_operator advances onOperator read
    have := toRight.index_lt
    have := toRight.le_stop
    omega
  · -- climb: the operator binds more loosely than the level
    intro p left op onOperator loose
    apply climbFollows_of_stop
    · rw [climb]
      simp only [onOperator, loose, if_false]
    · intro _ _ attempts chain
      exact chain.takeWhile_eq_nil onOperator (by omega)
  · -- tighten: no operator follows
    intro op right absent
    apply tightenFollows_of_stop
    · rw [tighten]
      simp only [absent]
    · intro _ _ attempts chain
      rw [chain.eq_nil_of_absent absent, List.takeWhile_nil]
  · -- tighten: climbing one level up fails
    intro op right following onOperator tighter e failed climbFollows atBound inside attempts chain
    have tightened : tighten operand bound op right = .error e := by
      rw [tighten]
      simp only [onOperator, tighter, failed, if_true]
    refine ⟨?_, fun r found => by rw [tightened] at found; cases found⟩
    rw [tightened, ← (climbFollows atBound inside attempts chain).1, failed]
  · -- tighten: climbing one level up moves, and tightening goes on from there
    intro op right following onOperator tighter extended extendedOk moved climbFollows
      tightenFollows atBound inside attempts chain
    obtain ⟨grouped, extendedChain⟩ := climbFollows atBound inside attempts chain
    have toExtended := climb_reaches advances (by rw [atBound]; exact inside) extendedOk
    obtain ⟨tightenedEq, tightenedChain⟩ := tightenFollows (toExtended.stop_eq.trans atBound)
      moved.2 _ (extendedChain extended extendedOk).1
    have step : tighten operand bound op right = tighten operand bound op extended := by
      rw [tighten]
      simp only [onOperator, tighter, extendedOk, moved, if_true, and_self, dite_true]
    -- climbing one level up has taken every link that binds more tightly than `op`
    rw [takeWhile_dropWhile_bindsAtLeast, tree_nil] at tightenedEq
    refine ⟨?_, fun r found => ?_⟩
    · rw [step, tightenedEq, ← extendedOk, grouped]
    · rw [step] at found
      simpa only [List.dropWhile_idempotent] using tightenedChain r found
  · -- tighten: climbing one level up does not move, so nothing binds more tightly
    intro op right following onOperator tighter extended extendedOk stuck climbFollows
    apply tightenFollows_of_stop
    · rw [tighten]
      simp only [onOperator, tighter, extendedOk, stuck, if_true, dif_neg, not_false_eq_true]
    · intro atBound inside attempts chain
      have grew := ((climbFollows atBound inside attempts chain).2 extended extendedOk).2
      have toExtended := climb_reaches advances (by rw [atBound]; exact inside) extendedOk
      have := toExtended.le_stop
      by_contra nonempty
      exact stuck ⟨grew nonempty, by omega⟩
  · -- tighten: the next operator does not bind more tightly
    intro op right following onOperator notTighter
    apply tightenFollows_of_stop
    · rw [tighten]
      simp only [onOperator, notTighter, if_false]
    · intro _ _ attempts chain
      exact chain.takeWhile_eq_nil onOperator (by omega)

include advances in
/-- After a first operand, the binary parser returns the grammar's grouping of
the whole chain after it. -/
theorem binaryOperation_eq_tree {c : Cursor} {first : ExprMatch}
    {attempts : List (BinaryOperator × Except InterpretError ExprMatch)}
    (read : operand c = .ok (some first)) (chain : Chain operand first.next attempts) :
    binaryOperation operand c =
      Except.map some (tree joinAttempts (levelsFrom 1) (.ok first) attempts) := by
  have toFirst := advances _ _ read
  have climbed := ((climb_tighten_follow advances).1 1 first toFirst.stop_eq toFirst.le_stop
    attempts chain).1
  rw [takeWhile_bindsAtLeast_one] at climbed
  rw [binaryOperation, read]
  simp only
  rw [climbed]
  cases tree joinAttempts (levelsFrom 1) (.ok first) attempts <;> rfl

end Simulation

/-! ### Reading the grouped chain -/

/-- The operands a chain reads, each with the operator before it. -/
def readOperands (attempts : List (BinaryOperator × Except InterpretError ExprMatch)) :
    List (BinaryOperator × ExprMatch) :=
  attempts.filterMap fun link => link.2.toOption.map fun right => (link.1, right)

@[simp] theorem readOperands_nil : readOperands [] = [] := rfl

@[simp] theorem readOperands_cons_ok (op : BinaryOperator) (right : ExprMatch)
    (rest : List (BinaryOperator × Except InterpretError ExprMatch)) :
    readOperands ((op, .ok right) :: rest) = (op, right) :: readOperands rest := rfl

@[simp] theorem readOperands_cons_error (op : BinaryOperator) (e : InterpretError)
    (rest : List (BinaryOperator × Except InterpretError ExprMatch)) :
    readOperands ((op, .error e) :: rest) = readOperands rest := rfl

/-- A chain with no failed attempt is its operands read. -/
theorem eq_map_readOperands {attempts : List (BinaryOperator × Except InterpretError ExprMatch)}
    (noneFails : ∀ op e, (op, .error e) ∉ attempts) :
    attempts = (readOperands attempts).map fun link => (link.1, .ok link.2) := by
  induction attempts with
  | nil => rfl
  | cons link rest inductionHypothesis =>
    obtain ⟨op, e | right⟩ := link
    · exact absurd List.mem_cons_self (noneFails op e)
    · have restClean : ∀ op e, (op, .error e) ∉ rest := fun op e member =>
        noneFails op e (List.mem_cons_of_mem _ member)
      rw [readOperands_cons_ok, List.map_cons, ← inductionHypothesis restClean]

/-- The node the parser builds for two operands joined by an operator. -/
def joinNodes (left : Expr) (op : BinaryOperator) (right : Expr) : Expr :=
  .binary op left right ⟨left.span.first, right.span.last⟩

/-- The value of two operands joined by an operator: `none` when a side has none
or the operator fails on the two values. -/
def joinValues (line : Nat) (left : Option Value) (op : BinaryOperator) (right : Option Value) :
    Option Value :=
  left.bind fun l => right.bind fun r => (op.apply l r line).toOption

/-- Two attempts joined as the parser joins them, keeping successes only. -/
def joinMatches (left : Option ExprMatch) (op : BinaryOperator) (right : Option ExprMatch) :
    Option ExprMatch :=
  left.bind fun l => right.bind fun r => (combine l op r l.next.line).toOption

theorem toOption_joinAttempts (left : Except InterpretError ExprMatch) (op : BinaryOperator)
    (right : Except InterpretError ExprMatch) :
    (joinAttempts left op right).toOption = joinMatches left.toOption op right.toOption := by
  cases left <;> cases right <;> rfl

theorem joinMatches_eq_some {left right : Option ExprMatch} {op : BinaryOperator} {m : ExprMatch}
    (joined : joinMatches left op right = some m) :
    ∃ l r, left = some l ∧ right = some r ∧ combine l op r l.next.line = .ok m := by
  cases left with
  | none => cases joined
  | some l =>
    cases right with
    | none => cases joined
    | some r => exact ⟨l, r, rfl, rfl, Except.toOption_eq_some.mp joined⟩

/-- The value of a join of matches is the join of their values, on any line. -/
theorem map_value_joinMatches (line : Nat) (left : Option ExprMatch) (op : BinaryOperator)
    (right : Option ExprMatch) :
    (joinMatches left op right).map ExprMatch.value =
      joinValues line (left.map ExprMatch.value) op (right.map ExprMatch.value) := by
  cases left with
  | none => rfl
  | some l =>
    cases right with
    | none => rfl
    | some r =>
      -- `combine` evaluates on the line of its left operand; the value does not
      -- depend on the line
      simp only [joinMatches, joinValues, Option.bind_some, Option.map_some]
      rw [← op.apply_toOption l.value r.value l.next.line line]
      unfold combine
      split <;> rename_i applied <;> rw [applied] <;> rfl

/-- Whenever the grouping of matches succeeds, its node is the grouping of their
nodes and it ends where the last operand ends. -/
theorem tree_joinMatches_eq_some {levels : List Nat} {first m : ExprMatch}
    {operands : List (BinaryOperator × ExprMatch)}
    (atLevels : ∀ link ∈ operands, link.1.precedence ∈ levels)
    (found : tree joinMatches levels (some first)
      (operands.map fun link => (link.1, some link.2)) = some m) :
    m.node = tree joinNodes levels first.node (operands.map fun link => (link.1, link.2.node)) ∧
      m.next = (operands.getLast?.map fun link => link.2.next).getD first.next := by
  -- both by relating every successful join to its node, and to where it ends
  have nodes : ∀ m, tree joinMatches levels (some first)
      ((operands.map fun link => (link.1, some link.2, link.2.node)).map
        fun link => (link.1, link.2.1)) = some m →
      m.node = tree joinNodes levels first.node
        ((operands.map fun link => (link.1, some link.2, link.2.node)).map
          fun link => (link.1, link.2.2)) := by
    refine tree_related joinMatches (fun a n => ∀ m, a = some m → m.node = n) ?_ levels
      (fun _ isFirst => by cases isFirst; rfl) fun link member m isLink => ?_
    · intro a n op a' n' related related' m joined
      obtain ⟨l, r, rfl, rfl, combined⟩ := joinMatches_eq_some joined
      rw [(combine_eq_ok combined).2.2, related l rfl, related' r rfl]
      rfl
    · obtain ⟨operand, _, rfl⟩ := List.mem_map.mp member
      cases isLink
      rfl
  have ends : ∀ m, tree joinMatches levels (some first)
      ((operands.map fun link => (link.1, some link.2, link.2.next)).map
        fun link => (link.1, link.2.1)) = some m →
      m.next = tree (fun _ _ right => right) levels first.next
        ((operands.map fun link => (link.1, some link.2, link.2.next)).map
          fun link => (link.1, link.2.2)) := by
    refine tree_related joinMatches (fun a x => ∀ m, a = some m → m.next = x) ?_ levels
      (fun _ isFirst => by cases isFirst; rfl) fun link member m isLink => ?_
    · intro a x op a' x' _ related' m joined
      obtain ⟨l, r, rfl, rfl, combined⟩ := joinMatches_eq_some joined
      rw [(combine_eq_ok combined).2.1, related' r rfl]
    · obtain ⟨operand, _, rfl⟩ := List.mem_map.mp member
      cases isLink
      rfl
  simp only [List.map_map, Function.comp_def] at nodes ends
  refine ⟨nodes m found, ?_⟩
  rw [ends m found, tree_right levels first.next _ fun link member => by
    obtain ⟨operand, isOperand, rfl⟩ := List.mem_map.mp member
    exact atLevels operand isOperand, List.getLast?_map, Option.map_map]
  rfl

/-! ### The binary parser -/

/-- The binary parser declines exactly where no first operand is read. -/
theorem binaryOperation_eq_none_iff {c : Cursor} :
    binaryOperation operand c = .ok none ↔ operand c = .ok none := by
  rw [binaryOperation]
  split
  · simp_all
  · simp_all
  · -- after a first operand the parser either fails or returns a match
    split <;> simp_all

theorem binaryOperation_of_error {c : Cursor} {e : InterpretError}
    (failed : operand c = .error e) : binaryOperation operand c = .error e := by
  rw [binaryOperation, failed]

/-- What the binary parser returns after a first operand, read off the chain
after it. It fails exactly when an attempt in the chain fails or an operator of
the grammar's tree fails on its two sides. Otherwise its node is the grammar's
tree of the operands read, its value is that tree's value, and it ends where the
last operand read ends. -/
theorem binaryOperation_reads_chain
    (advances : ∀ p m, operand p = .ok (some m) → p.Advances m.next) {c : Cursor}
    {first : ExprMatch} {attempts : List (BinaryOperator × Except InterpretError ExprMatch)}
    (read : operand c = .ok (some first)) (chain : Chain operand first.next attempts) :
    ((∃ e, binaryOperation operand c = .error e) ↔
      (∃ op e, (op, .error e) ∈ attempts) ∨
        tree (joinValues c.line) (levelsFrom 1) (some first.value)
          ((readOperands attempts).map fun link => (link.1, some link.2.value)) = none) ∧
    ∀ m, binaryOperation operand c = .ok (some m) →
      m.node = tree joinNodes (levelsFrom 1) first.node
          ((readOperands attempts).map fun link => (link.1, link.2.node)) ∧
        tree (joinValues c.line) (levelsFrom 1) (some first.value)
          ((readOperands attempts).map fun link => (link.1, some link.2.value)) = some m.value ∧
        m.next = ((readOperands attempts).getLast?.map fun link => link.2.next).getD first.next := by
  have grouped := binaryOperation_eq_tree advances read chain
  have successes := tree_map joinAttempts Except.toOption toOption_joinAttempts (levelsFrom 1)
    (.ok first) attempts
  have atLevels : ∀ (operands : List (BinaryOperator × Option ExprMatch)),
      ∀ link ∈ operands, link.1.precedence ∈ levelsFrom 1 :=
    fun _ link _ => precedence_mem_levelsFrom_one link.1
  by_cases someFails : ∃ op e, (op, .error e) ∈ attempts
  · -- a failed attempt fails the whole grouping
    obtain ⟨op, e, failedAttempt⟩ := someFails
    rw [tree_absorbing joinMatches none (fun _ _ => rfl) (fun left _ => by cases left <;> rfl)
      (levelsFrom 1) _ _ (atLevels _) ⟨(op, none), List.mem_map.mpr ⟨_, failedAttempt, rfl⟩, rfl⟩]
      at successes
    obtain ⟨err, failed⟩ := Except.toOption_eq_none.mp successes
    rw [grouped, failed]
    exact ⟨iff_of_true ⟨err, rfl⟩ (.inl ⟨op, e, failedAttempt⟩), fun m found => by cases found⟩
  · -- otherwise the chain is its operands, and its grouping is that of their values
    have clean := eq_map_readOperands fun op e member => someFails ⟨op, e, member⟩
    generalize readOperands attempts = operands at clean ⊢
    subst clean
    simp only [List.map_map, Function.comp_def, Except.toOption_ok] at successes
    have values := tree_map joinMatches (Option.map ExprMatch.value) (map_value_joinMatches c.line)
      (levelsFrom 1) (some first) (operands.map fun link => (link.1, some link.2))
    simp only [List.map_map, Function.comp_def, Option.map_some] at values
    rw [grouped]
    cases found : tree joinAttempts (levelsFrom 1) (.ok first)
        (operands.map fun link => (link.1, .ok link.2)) with
    | error err =>
      rw [found, Except.toOption_error] at successes
      rw [← successes, Option.map_none] at values
      exact ⟨iff_of_true ⟨err, rfl⟩ (.inr values.symm), fun m found' => by cases found'⟩
    | ok r =>
      rw [found, Except.toOption_ok] at successes
      rw [← successes, Option.map_some] at values
      obtain ⟨nodeEq, nextEq⟩ := tree_joinMatches_eq_some
        (fun link _ => precedence_mem_levelsFrom_one link.1) successes.symm
      refine ⟨iff_of_false (fun ⟨_, isError⟩ => by cases isError) ?_, fun m found' => ?_⟩
      · rintro (⟨op, e, member⟩ | noValue)
        · obtain ⟨_, _, isError⟩ := List.mem_map.mp member
          cases isError
        · rw [← values] at noValue
          cases noValue
      · cases found'
        exact ⟨nodeEq, values.symm, nextEq⟩

/-- The binary parser, reading each operand with the dispatch of the parsers
registered after it, follows the documented grammar of operator chains: it
declines exactly where no first operand is read and fails where that read fails;
after a first operand it fails exactly when an attempt along the chain fails or
an operator of the grammar's tree fails, and otherwise returns the grammar's
tree of the operands read, with that tree's value, ending after the last operand
read (an operator with no operand after it is left unread). -/
theorem binaryOperation_follows_grammar (order : Order) (bindings : Bindings) (levels : Nat)
    (c : Cursor) :
    let operand := (Dispatch.withLevels order bindings levels).operand ExprRule.binaryOperation.name
    (binaryOperation operand c = .ok none ↔ operand c = .ok none) ∧
    (∀ e, operand c = .error e → binaryOperation operand c = .error e) ∧
    ∀ first, operand c = .ok (some first) →
      (∃ attempts, Chain operand first.next attempts) ∧
      ∀ attempts, Chain operand first.next attempts →
        ((∃ e, binaryOperation operand c = .error e) ↔
          (∃ op e, (op, .error e) ∈ attempts) ∨
            tree (joinValues c.line) (levelsFrom 1) (some first.value)
              ((readOperands attempts).map fun link => (link.1, some link.2.value)) = none) ∧
        ∀ m, binaryOperation operand c = .ok (some m) →
          m.node = tree joinNodes (levelsFrom 1) first.node
              ((readOperands attempts).map fun link => (link.1, link.2.node)) ∧
            tree (joinValues c.line) (levelsFrom 1) (some first.value)
              ((readOperands attempts).map fun link => (link.1, some link.2.value)) =
                some m.value ∧
            m.next =
              ((readOperands attempts).getLast?.map fun link => link.2.next).getD first.next := by
  intro operand
  have advances := (Dispatch.withLevels_progressive order bindings levels).operand
    ExprRule.binaryOperation.name
  exact ⟨binaryOperation_eq_none_iff, fun _ failed => binaryOperation_of_error failed,
    fun first read => ⟨Chain.exists_of_advances advances first.next,
      fun _ chain => binaryOperation_reads_chain advances read chain⟩⟩

end Reckon.Parse
