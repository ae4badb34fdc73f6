import Reckon.Proofs.Dispatch

/-!
Contract: what each statement parser returns when it matches.

Owns one lemma per statement parser that gives its match in full: the tree,
the value, where it ends and the declaration it makes, in terms of the nested
dispatch (`comment_eq_some` to `condition_eq_some`), and the same for the
branch a condition selects (`selectedBranch_eq_ok`). Later proofs about
statements cite these and do not unfold the parsers again.

Does not own: what holds of the nested dispatch; those facts are hypotheses
here and invariants of dispatch elsewhere.
-/

namespace Reckon.Parse

variable {sub : Dispatch} {c : Cursor} {m : StmtMatch}

theorem comment_eq_some (found : comment c = .ok (some m)) :
    c.isAt .comment = true ∧
      m = { node := .comment (c.spanTo c.advance), value := none, next := c.advance,
            parser := "", declares := none } := by
  unfold comment at found
  split at found
  · rename_i onComment
    cases found
    exact ⟨onComment, rfl⟩
  · cases found

theorem header_eq_some (found : header c = .ok (some m)) :
    ∃ titleStart, c.skip? .hash false = some titleStart ∧
      m = { node := .header titleStart.textToEnd (c.spanTo c.endOfView), value := none,
            next := c.endOfView, parser := "", declares := none } := by
  unfold header at found
  split at found
  · rename_i titleStart skipped
    cases found
    exact ⟨titleStart, skipped, rfl⟩
  · cases found

/-- A declaration is a word, `=` and an expression; it binds the word to the
value of the expression. -/
theorem declaration_eq_some (found : declaration sub c = .ok (some m)) :
    ∃ valueStart value, c.isAt .word = true ∧ c.advance.skip? .equals false = some valueStart ∧
      sub.expression valueStart = .ok (some value) ∧
      m = { node := .declaration c.text value.node (c.spanTo value.next),
            value := some value.value, next := value.next, parser := "",
            declares := some (c.text, value.value) } := by
  unfold declaration at found
  split at found
  · cases found
  · rename_i onWord
    split at found
    · cases found
    · rename_i valueStart equals
      split at found
      · cases found
      · cases found
      · rename_i value parsed
        cases found
        exact ⟨valueStart, value, by simpa using onWord, equals, parsed, rfl⟩

theorem numericalExpression_eq_some (found : numericalExpression sub c = .ok (some m)) :
    ∃ value, sub.expression c = .ok (some value) ∧
      m = { node := .calculation value.node (c.spanTo value.next), value := some value.value,
            next := value.next, parser := "", declares := none } := by
  unfold numericalExpression at found
  split at found
  · cases found
  · cases found
  · rename_i value parsed
    cases found
    exact ⟨value, parsed, rfl⟩

/-- The fast path for calculations reads an expression with a binary operator at
its root: a relational one makes a condition without a branch, any other a
calculation. -/
theorem conditionalExpression_eq_some (found : conditionalExpression sub c = .ok (some m)) :
    ∃ value op, sub.expression c = .ok (some value) ∧ value.node.rootOperator? = some op ∧
      m = { node := if op.isRelational then .condition value.node none (c.spanTo value.next)
                    else .calculation value.node (c.spanTo value.next),
            value := some value.value, next := value.next, parser := "", declares := none } := by
  unfold conditionalExpression at found
  split at found
  · cases found
  · cases found
  · rename_i value parsed
    split at found
    · cases found
    · rename_i op rooted
      cases found
      exact ⟨value, op, parsed, rooted, rfl⟩

/-- A condition selects its `then` branch, read up to `else`, when the test is
true; when it is false, its `else` branch if there is one, and otherwise none. -/
theorem selectedBranch_eq_ok {branchStart next : Cursor} {taken : Bool} {branch : Option StmtMatch}
    (found : selectedBranch sub c branchStart taken = .ok (branch, next)) :
    (taken = true ∧ ∃ chosen, sub.statementUntil branchStart .elseKw = .ok (some chosen) ∧
        branch = some chosen ∧
        next = if chosen.next.isAt .elseKw then chosen.next.endOfView else chosen.next) ∨
      (taken = false ∧ ∃ elseToken chosen, branchStart.seek? .elseKw = some elseToken ∧
        sub.statement elseToken.advance = .ok (some chosen) ∧ branch = some chosen ∧
        next = chosen.next) ∨
      (taken = false ∧ branchStart.seek? .elseKw = none ∧ branch = none ∧ next = c.endOfView) := by
  unfold selectedBranch at found
  cases taken with
  | true =>
    simp only [if_true] at found
    split at found
    · cases found
    · cases found
    · rename_i chosen parsed
      cases found
      exact .inl ⟨rfl, chosen, parsed, rfl, rfl⟩
  | false =>
    simp only [Bool.false_eq_true, if_false] at found
    split at found
    · rename_i elseToken sought
      split at found
      · cases found
      · cases found
      · rename_i chosen parsed
        cases found
        exact .inr (.inl ⟨rfl, elseToken, chosen, sought, parsed, rfl, rfl⟩)
    · rename_i sought
      cases found
      exact .inr (.inr ⟨rfl, sought, rfl, rfl⟩)

/-- The branch a condition selected is a statement that the nested dispatch read,
up to where it ends. -/
theorem selectedBranch_chosen {branchStart next : Cursor} {taken : Bool} {chosen : StmtMatch}
    (found : selectedBranch sub c branchStart taken = .ok (some chosen, next)) :
    ∃ start inner, sub.statement start = .ok (some inner) ∧ chosen.node = inner.node ∧
      chosen.value = inner.value ∧ chosen.declares = inner.declares := by
  rcases selectedBranch_eq_ok found with
    ⟨-, chosen', parsed, isChosen, -⟩ | ⟨-, _, chosen', -, parsed, isChosen, -⟩ | ⟨-, -, isNone, -⟩
  · obtain ⟨inner, innerParsed, rfl⟩ := Dispatch.statementUntil_eq_some parsed
    cases isChosen
    exact ⟨_, inner, innerParsed, rfl, rfl, rfl⟩
  · cases isChosen
    exact ⟨_, _, parsed, rfl, rfl, rfl⟩
  · cases isNone

/-- A condition is `[words] if`, a test read up to `then` that ends there and is a
boolean, and the branch that boolean selects. -/
theorem condition_eq_some (found : condition sub c = .ok (some m)) :
    ∃ conditionStart thenToken test taken branch next,
      c.skip? .ifKw true = some conditionStart ∧ conditionStart.seek? .thenKw = some thenToken ∧
      sub.expressionUntil conditionStart .thenKw = .ok (some test) ∧
      test.next.sameSpot thenToken = true ∧ test.value.asBool? = some taken ∧
      selectedBranch sub c thenToken.advance taken = .ok (branch, next) ∧
      m = { node := .condition test.node (branch.map StmtMatch.node) (c.spanTo next),
            value := branch.bind StmtMatch.value, next, parser := "",
            declares := branch.bind StmtMatch.declares } := by
  unfold condition at found
  split at found
  · cases found
  · rename_i conditionStart skipped
    split at found
    · cases found
    · rename_i thenToken sought
      split at found
      · cases found
      · cases found
      · rename_i test parsed
        split at found
        · cases found
        · rename_i atThen
          split at found
          · cases found
          · rename_i taken boolean
            split at found
            · cases found
            · rename_i branch next selected
              cases found
              exact ⟨conditionStart, thenToken, test, taken, branch, next, skipped, sought, parsed,
                by simpa using atThen, boolean, selected, rfl⟩

end Reckon.Parse
