import Reckon.Proofs.ViewStart
import Reckon.Proofs.NestingLimit
import Reckon.Proofs.Spans

/-!
Contract: a condition line reads as the branch it selects, read as a line of its own one
nesting level deeper.

A line `W₁ … Wₘ if C then T [else E]` (`Cursor.ConditionLine`) is read by the condition
parser of the built-in registry: the other statement parsers before it decline on a word
or on `if`. The condition `C` is read in the line's view cut before `then`. When it
fails, the line fails with its error. When it reads all of `C` as a boolean, only the
branch it selects is read, and the line's result and declaration are those of that branch
read as a line of its own, with two differences (`condition_line_reads_as_its_branch`):
- the branch is read by the dispatch one level below the line's, so one nesting level
  fewer is left to it;
- where no statement parser reads the branch, even an empty one, the line fails with a
  missing branch naming `then` or `else`, not with an unrecognized statement.
A false condition with no `else` reads as an empty line that declares nothing.

The branch is read in a view that starts at the line's start, the branch alone in a view
that starts at the branch; `Reckon.Proofs.ViewStart` shows that the two read alike. The
taken `then` branch ends before the first `else` after it; where it stops before the
end of its view, the line fails with the tokens after it, as the branch alone does.

Owns: `Cursor.kindAt`, `lineOfStatement`, `Cursor.ConditionLine`,
`Cursor.TrailsAlike` and the facts above.
Does not own: reading a view wherever it starts (`Reckon.Proofs.ViewStart`), the order
of the built-in statement parsers (`Reckon.Proofs.NestingLimit`).
-/

set_option autoImplicit false

namespace Reckon

/-- The kind of token `j` of the cursor's stream. -/
def Cursor.kindAt (c : Cursor) (j : Nat) : Option TokenKind :=
  c.stream.tokens[j]?.map Token.kind

/-- How a line that is not empty reads once its statement has been tried: an error fails
the line, no match fails it with `missing`, and a match fails it with the first token
after it unless it ends the line or a comment follows; otherwise the line has the match's
value, or none, and the match's parser. The match declares what it declares even when
tokens follow it. -/
def lineOfStatement (c : Cursor) (missing : ParseError) :
    Attempt StmtMatch → (LineResult × Option String) × Option (String × Value)
  | .error e => ((.failed e, none), none)
  | .ok none => ((.failed (.parse missing), none), none)
  | .ok (some found) =>
    if !found.next.atEnd && !found.next.isAt .comment then
      ((.failed (.parse (.unexpectedTrailingTokens found.next.text c.line)), none),
        found.declares)
    else
      let result := match found.value with
        | some v => LineResult.value v
        | none => LineResult.empty
      ((result, some found.parser), found.declares)

/-- A line that is not empty is its statement read by the full dispatch, with an
unrecognized statement where no statement parser matches. -/
theorem readLine_eq_lineOfStatement (order : Order) (bindings : Bindings) {c : Cursor}
    (notEnd : c.atEnd = false) :
    readLine order bindings c =
      lineOfStatement c (.unrecognizedStatement c.line) ((order.dispatch bindings).statement c) := by
  rw [readLine, if_neg (by simp [notEnd])]
  rcases (order.dispatch bindings).statement c with e | _ | found <;> rfl

/-- The full dispatch is one level over the dispatch with one level fewer. -/
theorem Order.dispatch_eq_step (order : Order) (bindings : Bindings) :
    order.dispatch bindings =
      Dispatch.step order bindings (Dispatch.withLevels order bindings (maxNestingDepth - 1)) :=
  rfl

/-- Two readings of a line with the same result and the same declaration, whatever
parser each names. -/
def SameOutcome (x y : (LineResult × Option String) × Option (String × Value)) : Prop :=
  x.1.1 = y.1.1 ∧ x.2 = y.2

/-- Two positions where a line reads alike what follows its statement: both end the view
or neither, both are on a comment or neither, and the token there is spelled alike. -/
structure Cursor.TrailsAlike (n n' : Cursor) : Prop where
  atEnd : n'.atEnd = n.atEnd
  comment : n'.isAt .comment = n.isAt .comment
  text : n'.text = n.text

theorem Cursor.Restarted.trailsAlike {S : TokenStream} {s s' : Nat} {n n' : Cursor}
    (r : n.Restarted S s s' n') :
    n.TrailsAlike n' :=
  ⟨r.atEnd, r.isAt .comment, r.text⟩

theorem Cursor.TrailsAlike.of_token? {n n' : Cursor} (atEnd : n'.atEnd = n.atEnd)
    (token : n'.token? = n.token?) : n.TrailsAlike n' :=
  ⟨atEnd, by simp only [Cursor.isAt, Cursor.kind?, token], by simp only [Cursor.text, token]⟩

/-- Two matches with the same value and declaration that end where the line reads alike
give the line the same result and declaration. -/
theorem lineOfStatement_sameOutcome {c c' : Cursor} (line : c'.line = c.line)
    (missing missing' : ParseError) {m m' : StmtMatch} (value : m'.value = m.value)
    (declares : m'.declares = m.declares) (trails : m.next.TrailsAlike m'.next) :
    SameOutcome (lineOfStatement c missing (.ok (some m)))
      (lineOfStatement c' missing' (.ok (some m'))) := by
  simp only [lineOfStatement, trails.atEnd, trails.comment, trails.text, line, value, declares]
  split <;> exact ⟨rfl, rfl⟩

/-- How the condition statement reads next to how its selected branch reads alone: both
fail with one error, the condition fails with a missing branch where the branch declines,
or both read matches with one value and declaration that end where the line reads
alike. -/
inductive ReadsBranch (keyword : String) (line : Nat) : Attempt StmtMatch → Attempt StmtMatch → Prop
  | error (e : InterpretError) : ReadsBranch keyword line (.error e) (.error e)
  | missing : ReadsBranch keyword line (.error (.parse (.missingBranch keyword line))) (.ok none)
  | found {m m' : StmtMatch} (value : m'.value = m.value) (declares : m'.declares = m.declares)
      (trails : m.next.TrailsAlike m'.next) : ReadsBranch keyword line (.ok (some m)) (.ok (some m'))

/-- A line read by a statement that reads as a branch has the result and declaration of
the branch read as a line of its own, with a missing branch where the branch declines. -/
theorem ReadsBranch.sameOutcome {keyword : String} {c c' : Cursor} (line : c'.line = c.line)
    {attempt attempt' : Attempt StmtMatch} (reads : ReadsBranch keyword c.line attempt attempt')
    (relabel : StmtMatch → StmtMatch) (value : ∀ m, (relabel m).value = m.value)
    (declares : ∀ m, (relabel m).declares = m.declares) (next : ∀ m, (relabel m).next = m.next) :
    SameOutcome (lineOfStatement c (.unrecognizedStatement c.line) (attempt.map (Option.map relabel)))
      (lineOfStatement c' (.missingBranch keyword c.line) attempt') := by
  cases reads with
  | error e => exact ⟨rfl, rfl⟩
  | missing => exact ⟨rfl, rfl⟩
  | found sameValue sameDeclares trails =>
    exact lineOfStatement_sameOutcome line _ _ (by rw [value, sameValue]) (by rw [declares, sameDeclares])
      (by rw [next]; exact trails)

/-- A condition statement that reads as a branch never declines. -/
theorem ReadsBranch.ne_declined {keyword : String} {line : Nat} {attempt attempt' : Attempt StmtMatch}
    (reads : ReadsBranch keyword line attempt attempt') : attempt ≠ .ok none := by
  cases reads <;> simp

theorem Cursor.not_inside_of_atEnd {n : Cursor} (atEnd : n.atEnd = true) : ¬n.index < n.stop := by
  simp only [Cursor.atEnd, decide_eq_true_eq] at atEnd
  omega

theorem Cursor.token?_of_atEnd {n : Cursor} (atEnd : n.atEnd = true) : n.token? = none := by
  simp [Cursor.token?, Cursor.not_inside_of_atEnd atEnd]

theorem Cursor.TrailsAlike.of_atEnd {n n' : Cursor} (atEnd : n.atEnd = true) (atEnd' : n'.atEnd = true) :
    n.TrailsAlike n' :=
  .of_token? (by rw [atEnd, atEnd']) (by rw [Cursor.token?_of_atEnd atEnd, Cursor.token?_of_atEnd atEnd'])

/-! ### Finding tokens of a kind -/

namespace Cursor

variable {c : Cursor} {kind : TokenKind} {k : Nat}

@[simp] theorem kindAt_advance (c : Cursor) (j : Nat) : c.advance.kindAt j = c.kindAt j := by
  unfold advance
  split <;> rfl

theorem isAt_eq_true_of_kindAt (inside : c.index < c.stop) (onKind : c.kindAt c.index = some kind) :
    c.isAt kind = true :=
  (isAt_iff inside).mpr onKind

theorem isAt_eq_false_of_kindAt (inside : c.index < c.stop) (notKind : c.kindAt c.index ≠ some kind) :
    c.isAt kind = false := by
  cases onKind : c.isAt kind with
  | false => rfl
  | true => exact absurd ((isAt_iff inside).mp onKind) notKind

/-- Skipping words from the cursor stops at the first token that is no word. -/
theorem skipWords_eq_of_words (words : ∀ j, c.index ≤ j → j < k → c.kindAt j = some .word)
    (reach : c.index ≤ k) (inside : k < c.stop) (notWord : c.kindAt k ≠ some .word) :
    c.skipWords = { c with index := k } := by
  induction c using Cursor.skipWords.induct with
  | case1 c inside' onWord inductionHypothesis =>
    -- on a word, so before `k`, and the words go on from the next token
    have before : c.index < k := by
      rcases Nat.lt_or_eq_of_le reach with lt | same
      · exact lt
      · exact absurd ((isAt_iff inside').mp onWord) (same ▸ notWord)
    have movedIndex := advance_index_of_lt inside'
    rw [Cursor.skipWords.eq_1 c, dif_pos inside', if_pos onWord,
      inductionHypothesis (fun j lo hi => by rw [kindAt_advance]; exact words j (by omega) hi)
        (by omega) (by rw [advance_stop]; exact inside) (by rw [kindAt_advance]; exact notWord),
      advance_of_lt inside']
  | case2 c inside' notWordHere =>
    -- not on a word, so at `k`
    have here : c.index = k := by
      by_contra other
      exact notWordHere ((isAt_iff inside').mpr (words c.index (Nat.le_refl _) (by omega)))
    rw [Cursor.skipWords.eq_1 c, dif_pos inside', if_neg notWordHere, ← here]
  | case3 c outside => omega

/-- A search finds the first token of the kind at or after the cursor. -/
theorem seek?_eq_of_first (reach : c.index ≤ k) (inside : k < c.stop)
    (onKind : c.kindAt k = some kind) (before : ∀ j, c.index ≤ j → j < k → c.kindAt j ≠ some kind) :
    c.seek? kind = some { c with index := k } := by
  cases sought : c.seek? kind with
  | none => exact absurd onKind (seek?_eq_none sought k reach inside)
  | some found =>
    obtain ⟨shape, lo, -, foundKind, foundFirst⟩ := seek?_eq_some sought
    have atFirst : found.index = k := by
      rcases Nat.lt_trichotomy found.index k with lt | same | gt
      · exact absurd foundKind (before _ lo lt)
      · exact same
      · exact absurd onKind (foundFirst k reach gt)
    rw [shape, atFirst]

theorem seek?_eq_none_of (absent : ∀ j, c.index ≤ j → j < c.stop → c.kindAt j ≠ some kind) :
    c.seek? kind = none := by
  cases sought : c.seek? kind with
  | none => rfl
  | some found =>
    obtain ⟨-, lo, hi, foundKind, -⟩ := seek?_eq_some sought
    exact absurd foundKind (absent _ lo hi)

theorem until_eq_of_first (reach : c.index ≤ k) (inside : k < c.stop)
    (onKind : c.kindAt k = some kind) (before : ∀ j, c.index ≤ j → j < k → c.kindAt j ≠ some kind) :
    c.until kind = { c with stop := k } := by
  rw [Cursor.until, seek?_eq_of_first reach inside onKind before]

theorem until_eq_of_none (absent : ∀ j, c.index ≤ j → j < c.stop → c.kindAt j ≠ some kind) :
    c.until kind = c := by
  rw [Cursor.until, seek?_eq_none_of absent]

end Cursor

/-! ### Empty views -/

section EmptyViews

variable {c : Cursor}

theorem Cursor.kind?_of_atEnd (atEnd : c.atEnd = true) : c.kind? = none := by
  simp [Cursor.kind?, c.token?_of_atEnd atEnd]

theorem Cursor.isAt_of_atEnd (atEnd : c.atEnd = true) (kind : TokenKind) : c.isAt kind = false := by
  simp [Cursor.isAt, c.kind?_of_atEnd atEnd]

/-- At the end of a view every operand parser declines. -/
theorem ExprRule.run_atEnd {rule : ExprRule} (notBinary : rule ≠ .binaryOperation)
    (atEnd : c.atEnd = true) (bindings : Bindings) (sub : Dispatch) :
    rule.run bindings sub c = .ok none := by
  cases rule with
  | binaryOperation => exact absurd rfl notBinary
  | group => simp [ExprRule.run, Parse.group, Cursor.skip?, c.isAt_of_atEnd atEnd, pure, Except.pure]
  | function => simp [ExprRule.run, Parse.call, c.isAt_of_atEnd atEnd, pure, Except.pure]
  | decimalComma => simp [ExprRule.run, Parse.decimalComma, Parse.atDigitRun, c.isAt_of_atEnd atEnd]
  | data =>
    simp only [ExprRule.run, Parse.data, c.kind?_of_atEnd atEnd]
    rfl
  | variableReference => simp [ExprRule.run, Parse.reference, c.isAt_of_atEnd atEnd]

/-- At the end of a view every statement parser declines, given that no expression is read
there one level down. -/
theorem StmtRule.run_atEnd (rule : StmtRule) (atEnd : c.atEnd = true) {sub : Dispatch}
    (noExpression : sub.expression c = .ok none) : rule.run sub c = .ok none := by
  have stays : c.skipWords = c := by
    rw [Cursor.skipWords.eq_1, dif_neg (c.not_inside_of_atEnd atEnd)]
  cases rule with
  | comment => simp [StmtRule.run, Parse.comment, c.isAt_of_atEnd atEnd]
  | header => simp [StmtRule.run, Parse.header, Cursor.skip?, c.isAt_of_atEnd atEnd]
  | condition => simp [StmtRule.run, Parse.condition, Cursor.skip?, stays, c.isAt_of_atEnd atEnd]
  | declaration => simp [StmtRule.run, Parse.declaration, c.isAt_of_atEnd atEnd]
  | conditionalExpression => simp [StmtRule.run, Parse.conditionalExpression, noExpression]
  | numericalExpression => simp [StmtRule.run, Parse.numericalExpression, noExpression]

theorem firstMatch_of_declined {ρ α : Type} {run : ρ → Attempt α} {label : α → String → α}
    {rules : List (String × ρ)} (declined : ∀ entry ∈ rules, run entry.2 = .ok none) :
    firstMatch run label rules = .ok none := by
  rw [← List.append_nil rules, firstMatch_append_of_declined [] declined]
  rfl

namespace Dispatch

variable {order : Order} {bindings : Bindings} {levels : Nat}

theorem withLevels_operand_atEnd (shape : order.OperandsAfterBinary) (atEnd : c.atEnd = true) :
    (withLevels order bindings (levels + 1)).operand ExprRule.binaryOperation.name c = .ok none := by
  rw [withLevels_succ_operand]
  exact firstMatch_of_declined fun entry member => ExprRule.run_atEnd
    (fun isBinary => shape.noChain (List.mem_map.mpr ⟨entry, member, isBinary⟩)) atEnd _ _

theorem withLevels_expression_atEnd (shape : order.OperandsAfterBinary) (atEnd : c.atEnd = true) :
    (withLevels order bindings (levels + 2)).expression c = .ok none := by
  rw [withLevels_succ_expression]
  refine firstMatch_of_declined fun entry _ => ?_
  by_cases isBinary : entry.2 = .binaryOperation
  · -- the binary parser finds no first operand
    rw [isBinary]
    simp only [ExprRule.run, Parse.binaryOperation, withLevels_operand_atEnd shape atEnd]
  · exact ExprRule.run_atEnd isBinary atEnd _ _

/-- An empty view holds no statement when at least three nesting levels are left. -/
theorem withLevels_statement_atEnd (shape : order.OperandsAfterBinary) (atEnd : c.atEnd = true) :
    (withLevels order bindings (levels + 3)).statement c = .ok none :=
  firstMatch_of_declined fun entry _ =>
    entry.2.run_atEnd atEnd (withLevels_expression_atEnd shape atEnd)

end Dispatch

end EmptyViews

/-! ### Condition lines -/

/-- The view of `c` holds a condition up to its `then`: words from the cursor up to
`ifAt`, the `if` token there, and the first `then` after it at `thenAt`, before the end of
the view, which starts at or before the cursor. -/
structure Cursor.ConditionLine (c : Cursor) (ifAt thenAt : Nat) : Prop where
  start_le : c.start ≤ c.index
  index_le : c.index ≤ ifAt
  words : ∀ j, c.index ≤ j → j < ifAt → c.kindAt j = some .word
  onIf : c.kindAt ifAt = some .ifKw
  if_lt : ifAt < thenAt
  then_lt : thenAt < c.stop
  onThen : c.kindAt thenAt = some .thenKw
  noThen : ∀ j, ifAt < j → j < thenAt → c.kindAt j ≠ some .thenKw

namespace Cursor.ConditionLine

variable {c : Cursor} {ifAt thenAt : Nat}

/-- The line starts with a word or with `if`, where neither a comment nor a header does. -/
theorem first_kind (shape : c.ConditionLine ifAt thenAt) :
    c.kindAt c.index = some .word ∨ c.kindAt c.index = some .ifKw := by
  rcases Nat.lt_or_eq_of_le shape.index_le with before | atIf
  · exact .inl (shape.words c.index (Nat.le_refl _) before)
  · exact .inr (atIf ▸ shape.onIf)

theorem inside (shape : c.ConditionLine ifAt thenAt) : c.index < c.stop := by
  have := shape.index_le
  have := shape.if_lt
  have := shape.then_lt
  omega

theorem atEnd (shape : c.ConditionLine ifAt thenAt) : c.atEnd = false := by
  simp only [Cursor.atEnd, decide_eq_false_iff_not]
  exact Nat.not_le.mpr shape.inside

theorem isAt_eq_false (shape : c.ConditionLine ifAt thenAt) (kind : TokenKind)
    (notWord : kind ≠ .word) (notIf : kind ≠ .ifKw) : c.isAt kind = false :=
  isAt_eq_false_of_kindAt shape.inside fun onKind => by
    rcases shape.first_kind with first | first
    · exact notWord (Option.some.inj (onKind.symm.trans first))
    · exact notIf (Option.some.inj (onKind.symm.trans first))

theorem comment_declines (shape : c.ConditionLine ifAt thenAt) : Parse.comment c = .ok none := by
  simp only [Parse.comment, shape.isAt_eq_false .comment (by decide) (by decide),
    Bool.false_eq_true, if_false]

theorem header_declines (shape : c.ConditionLine ifAt thenAt) : Parse.header c = .ok none := by
  simp only [Parse.header, Cursor.skip?, Bool.false_and, Bool.false_eq_true, if_false,
    shape.isAt_eq_false .hash (by decide) (by decide)]

/-- Past the words, the `if` token is stepped over. -/
theorem skip?_if (shape : c.ConditionLine ifAt thenAt) :
    c.skip? .ifKw true = some { c with index := ifAt + 1 } := by
  have ifInside : ifAt < c.stop := Nat.lt_trans shape.if_lt shape.then_lt
  have skipped : c.skipWords = { c with index := ifAt } :=
    skipWords_eq_of_words shape.words shape.index_le ifInside (by rw [shape.onIf]; simp)
  have onIf : ({ c with index := ifAt } : Cursor).isAt .ifKw = true :=
    isAt_eq_true_of_kindAt ifInside shape.onIf
  simp only [Cursor.skip?, Bool.true_and, show (TokenKind.ifKw != .word) = true from rfl,
    if_true, skipped, onIf]
  rw [advance_of_lt ifInside]

theorem seek?_then (shape : c.ConditionLine ifAt thenAt) :
    ({ c with index := ifAt + 1 } : Cursor).seek? .thenKw = some { c with index := thenAt } :=
  seek?_eq_of_first (k := thenAt) shape.if_lt shape.then_lt shape.onThen
    fun j lo hi => shape.noThen j lo hi

theorem until_then (shape : c.ConditionLine ifAt thenAt) :
    ({ c with index := ifAt + 1 } : Cursor).until .thenKw = { c with index := ifAt + 1, stop := thenAt } :=
  until_eq_of_first (k := thenAt) shape.if_lt shape.then_lt shape.onThen
    fun j lo hi => shape.noThen j lo hi

/-- A condition that fails to read fails the condition statement. -/
theorem condition_of_error (shape : c.ConditionLine ifAt thenAt) {sub : Dispatch}
    {e : InterpretError}
    (failed : sub.expression { c with index := ifAt + 1, stop := thenAt } = .error e) :
    Parse.condition sub c = .error e := by
  have tested : sub.expressionUntil { c with index := ifAt + 1 } .thenKw = .error e := by
    simp only [Dispatch.expressionUntil, shape.until_then, failed]
    rfl
  simp only [Parse.condition, shape.skip?_if, shape.seek?_then, tested]

/-- Read in the view cut before `then`, the condition's match is carried back into the
line's view. -/
theorem expressionUntil_then (shape : c.ConditionLine ifAt thenAt) {sub : Dispatch}
    {test : ExprMatch}
    (found : sub.expression { c with index := ifAt + 1, stop := thenAt } = .ok (some test)) :
    sub.expressionUntil { c with index := ifAt + 1 } .thenKw =
      .ok (some { test with next := ({ c with index := ifAt + 1 } : Cursor).resume test.next }) := by
  simp only [Dispatch.expressionUntil, shape.until_then, found]
  rfl

/-- A condition that ends at `then` in its cut view ends at the `then` token of the line. -/
theorem resume_at_then (shape : c.ConditionLine ifAt thenAt) {n : Cursor} (ends : n.index = thenAt) :
    (({ c with index := ifAt + 1 } : Cursor).resume n).sameSpot { c with index := thenAt } = true := by
  have := shape.start_le
  have := shape.index_le
  have := shape.if_lt
  have := shape.then_lt
  simp only [Cursor.resume, Cursor.sameSpot, ends, Bool.and_eq_true, beq_iff_eq, and_true]
  omega

theorem advance_then (shape : c.ConditionLine ifAt thenAt) :
    ({ c with index := thenAt } : Cursor).advance = { c with index := thenAt + 1 } :=
  advance_of_lt shape.then_lt

/-- A condition read up to `then` as the boolean `b` selects the branch of `b` from the token
after `then`; where the selection fails, so does the statement. -/
theorem condition_of_selected_error (shape : c.ConditionLine ifAt thenAt) {sub : Dispatch}
    {test : ExprMatch} {b : Bool}
    (found : sub.expression { c with index := ifAt + 1, stop := thenAt } = .ok (some test))
    (ends : test.next.index = thenAt) (value : test.value = .boolean b) {e : InterpretError}
    (selected : Parse.selectedBranch sub c { c with index := thenAt + 1 } b = .error e) :
    Parse.condition sub c = .error e := by
  simp only [Parse.condition, shape.skip?_if, shape.seek?_then, shape.expressionUntil_then found,
    shape.resume_at_then ends, value, Value.asBool?, shape.advance_then, Bool.not_true,
    Bool.false_eq_true, if_false, selected]

/-- A condition read up to `then` as the boolean `b` selects the branch of `b` from the token
after `then`; the statement has the selected branch's value and declaration and ends where
the selection ends. -/
theorem condition_of_selected (shape : c.ConditionLine ifAt thenAt) {sub : Dispatch}
    {test : ExprMatch} {b : Bool}
    (found : sub.expression { c with index := ifAt + 1, stop := thenAt } = .ok (some test))
    (ends : test.next.index = thenAt) (value : test.value = .boolean b) {branch : Option StmtMatch}
    {next : Cursor}
    (selected : Parse.selectedBranch sub c { c with index := thenAt + 1 } b = .ok (branch, next)) :
    Parse.condition sub c =
      .ok (some { node := .condition test.node (branch.map StmtMatch.node) (c.spanTo next),
                  value := branch.bind StmtMatch.value, next, parser := "",
                  declares := branch.bind StmtMatch.declares }) := by
  simp only [Parse.condition, shape.skip?_if, shape.seek?_then, shape.expressionUntil_then found,
    shape.resume_at_then ends, value, Value.asBool?, shape.advance_then, Bool.not_true,
    Bool.false_eq_true, if_false, selected]

/-- In the built-in order, a condition line is read by the condition parser whenever that
parser does not decline: the comment and header parsers before it decline. -/
theorem statement_eq (shape : c.ConditionLine ifAt thenAt) {order : Order}
    (statements : order.statements = builtinStatements) (bindings : Bindings) (sub : Dispatch)
    (decides : Parse.condition sub c ≠ .ok none) :
    (Dispatch.step order bindings sub).statement c =
      (Parse.condition sub c).map (Option.map fun m => { m with parser := "ConditionStatement" }) := by
  show firstMatch (fun rule => rule.run sub c) (fun found name => { found with parser := name })
    order.statements = _
  rw [statements, show builtinStatements = [("Comment", .comment), ("Header", .header)] ++
      ("ConditionStatement", .condition) :: [("VariableDeclaration", .declaration),
        ("ConditionalExpression", .conditionalExpression),
        ("NumericalExpression", .numericalExpression)] from rfl,
    firstMatch_append_of_declined _ ?declined]
  · exact firstMatch_cons_of_ne _ _ decides
  · intro entry member
    simp only [List.mem_cons, List.not_mem_nil, or_false] at member
    rcases member with rfl | rfl
    · exact shape.comment_declines
    · exact shape.header_declines

/-- The line reads as what the condition parser reads, under the parser's name, whenever
that parser does not decline. -/
theorem readLine_eq (shape : c.ConditionLine ifAt thenAt) {order : Order}
    (statements : order.statements = builtinStatements) (bindings : Bindings)
    (decides : Parse.condition (Dispatch.withLevels order bindings (maxNestingDepth - 1)) c ≠ .ok none) :
    readLine order bindings c =
      lineOfStatement c (.unrecognizedStatement c.line)
        ((Parse.condition (Dispatch.withLevels order bindings (maxNestingDepth - 1)) c).map
          (Option.map fun m => { m with parser := "ConditionStatement" })) := by
  rw [readLine_eq_lineOfStatement order bindings shape.atEnd, Order.dispatch_eq_step,
    shape.statement_eq statements bindings _ decides]

variable {order : Order}

/-- A condition that fails to read fails the line with its error, and the line declares
nothing. -/
theorem readLine_of_error (shape : c.ConditionLine ifAt thenAt)
    (statements : order.statements = builtinStatements) (bindings : Bindings) {e : InterpretError}
    (failed : (Dispatch.withLevels order bindings (maxNestingDepth - 1)).expression
      { c with index := ifAt + 1, stop := thenAt } = .error e) :
    readLine order bindings c = ((.failed e, none), none) := by
  have failedHere := shape.condition_of_error failed
  rw [shape.readLine_eq statements bindings (by rw [failedHere]; simp), failedHere]
  rfl

/-- A false condition with no `else` after `then` makes the line empty, and the line
declares nothing. -/
theorem readLine_of_false (shape : c.ConditionLine ifAt thenAt)
    (statements : order.statements = builtinStatements) (bindings : Bindings) {test : ExprMatch}
    (found : (Dispatch.withLevels order bindings (maxNestingDepth - 1)).expression
      { c with index := ifAt + 1, stop := thenAt } = .ok (some test))
    (ends : test.next.index = thenAt) (value : test.value = .boolean false)
    (noElse : ∀ j, thenAt < j → j < c.stop → c.kindAt j ≠ some .elseKw) :
    readLine order bindings c = ((.empty, some "ConditionStatement"), none) := by
  have absent : ({ c with index := thenAt + 1 } : Cursor).seek? .elseKw = none :=
    seek?_eq_none_of noElse
  have selected : Parse.selectedBranch (Dispatch.withLevels order bindings (maxNestingDepth - 1)) c
      { c with index := thenAt + 1 } false = .ok (none, c.endOfView) := by
    simp only [Parse.selectedBranch, Bool.false_eq_true, if_false, absent]
  have chosen := shape.condition_of_selected found ends value selected
  rw [shape.readLine_eq statements bindings (by rw [chosen]; simp), chosen]
  simp [Except.map, lineOfStatement, Cursor.endOfView, Cursor.atEnd]

/-- A branch that starts after `then` is read alike in the line's view and in a view that
starts at the branch. -/
theorem restarted_after_then (shape : c.ConditionLine ifAt thenAt) {k stop : Nat}
    (after : thenAt < k) (within : k ≤ stop) :
    ({ c with index := k, stop } : Cursor).Restarted c.stream c.start k
      { c with index := k, start := k, stop } := by
  have := shape.start_le
  have := shape.index_le
  have := shape.if_lt
  exact ⟨rfl, rfl, rfl, show c.start ≤ k by omega, Nat.le_refl _, within⟩

/-- Where the taken branch ends before the end of its view, the condition statement ends
there too; where it ends at the `else` or at the end of the line, the statement ends at the
end of the line. Either way the line reads alike what follows as where the branch read
alone ends. -/
theorem trailsAlike_after_then (shape : c.ConditionLine ifAt thenAt) {branchEnd : Nat}
    (within : branchEnd ≤ c.stop)
    (noElse : ∀ j, thenAt < j → j < branchEnd → c.kindAt j ≠ some .elseKw)
    (endsAt : branchEnd = c.stop ∨ c.kindAt branchEnd = some .elseKw) {n n' : Cursor}
    (r : n.Restarted c.stream c.start (thenAt + 1) n') (view : n.stop = branchEnd) :
    (if (({ c with index := thenAt + 1 } : Cursor).resume n).isAt .elseKw then
        (({ c with index := thenAt + 1 } : Cursor).resume n).endOfView
      else ({ c with index := thenAt + 1 } : Cursor).resume n).TrailsAlike n' := by
  have := shape.start_le
  have := shape.index_le
  have := shape.if_lt
  have lo := r.le_index'
  have hi := r.index_le
  have resumed : ({ c with index := thenAt + 1 } : Cursor).resume n = { c with index := n.index } := by
    simp only [Cursor.resume, Cursor.mk.injEq, true_and, and_true]
    omega
  rw [resumed]
  rcases Nat.lt_or_eq_of_le (view ▸ hi) with before | atBranchEnd
  · -- inside the branch, where no `else` stands: both end at the same token
    have notElse : ({ c with index := n.index } : Cursor).isAt .elseKw = false :=
      isAt_eq_false_of_kindAt (show n.index < c.stop by omega) (noElse n.index (by omega) before)
    rw [notElse, if_neg Bool.false_ne_true, r.eq]
    refine .of_token? ?_ ?_
    · simp only [Cursor.atEnd, decide_eq_decide]
      omega
    · simp only [Cursor.token?, r.stream, show n.index < n.stop by omega,
        show n.index < c.stop by omega, if_true]
  · -- at the end of the branch: the end of the line, or the `else` that ends the statement
    have ended : n'.atEnd = true := by
      simp only [Cursor.atEnd, r.index, r.stop, decide_eq_true_eq]
      omega
    by_cases atStop : branchEnd = c.stop
    · have notInside : ({ c with index := n.index } : Cursor).isAt .elseKw = false := by
        simp only [Cursor.isAt, Cursor.kind?, Cursor.token?, show ¬n.index < c.stop by omega,
          if_false, Option.map_none]
        rfl
      rw [notInside, if_neg Bool.false_ne_true]
      exact .of_atEnd (by simp only [Cursor.atEnd, decide_eq_true_eq]; omega) ended
    · have onElse : ({ c with index := n.index } : Cursor).isAt .elseKw = true :=
        isAt_eq_true_of_kindAt (show n.index < c.stop by omega)
          (atBranchEnd ▸ endsAt.resolve_left atStop)
      rw [onElse, if_pos rfl]
      exact .of_atEnd (by simp [Cursor.endOfView, Cursor.atEnd]) ended

/-- A true condition reads as its `then` branch, cut before the first `else` after it or at
the end of the line, read by the same dispatch in a view of its own. -/
theorem reads_then_branch (shape : c.ConditionLine ifAt thenAt) (bindings : Bindings)
    (levels : Nat) {test : ExprMatch}
    (found : (Dispatch.withLevels order bindings levels).expression
      { c with index := ifAt + 1, stop := thenAt } = .ok (some test))
    (ends : test.next.index = thenAt) (value : test.value = .boolean true) {branchEnd : Nat}
    (after : thenAt < branchEnd) (within : branchEnd ≤ c.stop)
    (noElse : ∀ j, thenAt < j → j < branchEnd → c.kindAt j ≠ some .elseKw)
    (endsAt : branchEnd = c.stop ∨ c.kindAt branchEnd = some .elseKw) :
    ReadsBranch "then" c.line (Parse.condition (Dispatch.withLevels order bindings levels) c)
      ((Dispatch.withLevels order bindings levels).statement
        { c with index := thenAt + 1, start := thenAt + 1, stop := branchEnd }) := by
  have view : ({ c with index := thenAt + 1 } : Cursor).until .elseKw =
      { c with index := thenAt + 1, stop := branchEnd } := by
    by_cases atStop : branchEnd = c.stop
    · rw [until_eq_of_none (c := { c with index := thenAt + 1 }) fun j lo hi => noElse j lo (atStop ▸ hi),
        atStop]
    · exact until_eq_of_first after (show branchEnd < c.stop by omega) (endsAt.resolve_left atStop)
        noElse
  -- the branch in the line's view, and alone in a view of its own
  have related := (Dispatch.withLevels_startFree order bindings levels).statement
    (shape.restarted_after_then (Nat.lt_succ_self _) after)
  have spanned := (Dispatch.withLevels_spanned order bindings levels).statement
  generalize read : (Dispatch.withLevels order bindings levels).statement
    { c with index := thenAt + 1, stop := branchEnd } = attempt at related
  generalize (Dispatch.withLevels order bindings levels).statement
    { c with index := thenAt + 1, start := thenAt + 1, stop := branchEnd } = attempt' at related ⊢
  rcases related with e | ⟨@⟨branch, branch', branchRestarted⟩ | _⟩
  · rw [shape.condition_of_selected_error found ends value (by
      simp only [Parse.selectedBranch, if_true, Dispatch.statementUntil, view, read, bind,
        Except.bind] : _ = Except.error e)]
    exact .error e
  · have selected : Parse.selectedBranch (Dispatch.withLevels order bindings levels) c
        { c with index := thenAt + 1 } true =
        .ok (some { branch with next := ({ c with index := thenAt + 1 } : Cursor).resume branch.next },
          if (({ c with index := thenAt + 1 } : Cursor).resume branch.next).isAt .elseKw then
            (({ c with index := thenAt + 1 } : Cursor).resume branch.next).endOfView
          else ({ c with index := thenAt + 1 } : Cursor).resume branch.next) := by
      simp only [Parse.selectedBranch, if_true, Dispatch.statementUntil, view, read, bind,
        Except.bind, pure, Except.pure]
    rw [shape.condition_of_selected found ends value selected]
    exact .found branchRestarted.value branchRestarted.declares
      (shape.trailsAlike_after_then within noElse endsAt branchRestarted.next
        (spanned _ _ read).advances.stop_eq)
  · rw [shape.condition_of_selected_error found ends value (by
      simp only [Parse.selectedBranch, if_true, Dispatch.statementUntil, view, read, bind,
        Except.bind, pure, Except.pure] : _ = Except.error (.parse (.missingBranch "then" c.line)))]
    exact .missing

/-- A false condition reads as its `else` branch, from the token after the first `else`
after `then` to the end of the line, read by the same dispatch in a view of its own. -/
theorem reads_else_branch (shape : c.ConditionLine ifAt thenAt) (bindings : Bindings)
    (levels : Nat) {test : ExprMatch}
    (found : (Dispatch.withLevels order bindings levels).expression
      { c with index := ifAt + 1, stop := thenAt } = .ok (some test))
    (ends : test.next.index = thenAt) (value : test.value = .boolean false) {elseAt : Nat}
    (after : thenAt < elseAt) (inside : elseAt < c.stop) (onElse : c.kindAt elseAt = some .elseKw)
    (firstElse : ∀ j, thenAt < j → j < elseAt → c.kindAt j ≠ some .elseKw) :
    ReadsBranch "else" c.line (Parse.condition (Dispatch.withLevels order bindings levels) c)
      ((Dispatch.withLevels order bindings levels).statement
        { c with index := elseAt + 1, start := elseAt + 1 }) := by
  have sought : ({ c with index := thenAt + 1 } : Cursor).seek? .elseKw =
      some { c with index := elseAt } :=
    seek?_eq_of_first after inside onElse firstElse
  have stepped : ({ c with index := elseAt } : Cursor).advance = { c with index := elseAt + 1 } :=
    advance_of_lt inside
  have related := (Dispatch.withLevels_startFree order bindings levels).statement
    (shape.restarted_after_then (Nat.lt_succ_of_lt after) (Nat.succ_le_of_lt inside))
  generalize read : (Dispatch.withLevels order bindings levels).statement
    { c with index := elseAt + 1 } = attempt at related
  generalize (Dispatch.withLevels order bindings levels).statement
    { c with index := elseAt + 1, start := elseAt + 1 } = attempt' at related ⊢
  rcases related with e | ⟨@⟨branch, branch', branchRestarted⟩ | _⟩
  · rw [shape.condition_of_selected_error found ends value (by
      simp only [Parse.selectedBranch, Bool.false_eq_true, if_false, sought, stepped, read] :
      _ = Except.error e)]
    exact .error e
  · rw [shape.condition_of_selected found ends value (by
      simp only [Parse.selectedBranch, Bool.false_eq_true, if_false, sought, stepped, read] :
      _ = Except.ok (some branch, branch.next))]
    exact .found branchRestarted.value branchRestarted.declares branchRestarted.next.trailsAlike
  · rw [shape.condition_of_selected_error found ends value (by
      simp only [Parse.selectedBranch, Bool.false_eq_true, if_false, sought, stepped, read] :
      _ = Except.error (.parse (.missingBranch "else" c.line)))]
    exact .missing

end Cursor.ConditionLine

/-- How a line `W₁ … Wₘ if C then T [else E]` reads under `bindings`, by what its condition
`C`, read up to `then` with one nesting level fewer, gives: an error of the condition fails
the line; when the condition reads all of `C` as true, the line has the result and the
declaration of the `then` branch `T`, up to the first `else` after it, read as a line of its
own with one nesting level fewer and a missing `then` branch where no statement parser
reads it; when it reads all of `C` as false, the same holds of the `else` branch `E`, from
the first `else` after `then` to the end of the line; and a false condition without `else`
makes the line empty. -/
structure Cursor.ReadsByCondition (order : Order) (bindings : Bindings) (c : Cursor)
    (ifAt thenAt : Nat) : Prop where
  conditionFails : ∀ e, (Dispatch.withLevels order bindings (maxNestingDepth - 1)).expression
      { c with index := ifAt + 1, stop := thenAt } = .error e →
    readLine order bindings c = ((.failed e, none), none)
  readsThen : ∀ test, (Dispatch.withLevels order bindings (maxNestingDepth - 1)).expression
      { c with index := ifAt + 1, stop := thenAt } = .ok (some test) →
    test.next.index = thenAt → test.value = .boolean true →
    ∀ branchEnd, thenAt < branchEnd → branchEnd ≤ c.stop →
      (∀ j, thenAt < j → j < branchEnd → c.kindAt j ≠ some .elseKw) →
      (branchEnd = c.stop ∨ c.kindAt branchEnd = some .elseKw) →
      SameOutcome (readLine order bindings c)
        (lineOfStatement { c with index := thenAt + 1, start := thenAt + 1, stop := branchEnd }
          (.missingBranch "then" c.line)
          ((Dispatch.withLevels order bindings (maxNestingDepth - 1)).statement
            { c with index := thenAt + 1, start := thenAt + 1, stop := branchEnd }))
  readsElse : ∀ test, (Dispatch.withLevels order bindings (maxNestingDepth - 1)).expression
      { c with index := ifAt + 1, stop := thenAt } = .ok (some test) →
    test.next.index = thenAt → test.value = .boolean false →
    ∀ elseAt, thenAt < elseAt → elseAt < c.stop → c.kindAt elseAt = some .elseKw →
      (∀ j, thenAt < j → j < elseAt → c.kindAt j ≠ some .elseKw) →
      SameOutcome (readLine order bindings c)
        (lineOfStatement { c with index := elseAt + 1, start := elseAt + 1 }
          (.missingBranch "else" c.line)
          ((Dispatch.withLevels order bindings (maxNestingDepth - 1)).statement
            { c with index := elseAt + 1, start := elseAt + 1 }))
  emptyWithoutElse : ∀ test, (Dispatch.withLevels order bindings (maxNestingDepth - 1)).expression
      { c with index := ifAt + 1, stop := thenAt } = .ok (some test) →
    test.next.index = thenAt → test.value = .boolean false →
    (∀ j, thenAt < j → j < c.stop → c.kindAt j ≠ some .elseKw) →
    readLine order bindings c = ((.empty, some "ConditionStatement"), none)

namespace Cursor.ConditionLine

variable {c : Cursor} {ifAt thenAt : Nat} {order : Order}

/-- In the built-in order of statement parsers, every condition line reads by its
condition. -/
theorem readsByCondition (shape : c.ConditionLine ifAt thenAt)
    (statements : order.statements = builtinStatements) (bindings : Bindings) :
    c.ReadsByCondition order bindings ifAt thenAt where
  conditionFails _ failed := shape.readLine_of_error statements bindings failed
  readsThen _ found ends value _ after within noElse endsAt := by
    have reads := shape.reads_then_branch bindings _ found ends value after within noElse endsAt
    rw [shape.readLine_eq statements bindings reads.ne_declined]
    exact reads.sameOutcome rfl _ (fun _ => rfl) (fun _ => rfl) (fun _ => rfl)
  readsElse _ found ends value _ after inside onElse firstElse := by
    have reads := shape.reads_else_branch bindings _ found ends value after inside onElse firstElse
    rw [shape.readLine_eq statements bindings reads.ne_declined]
    exact reads.sameOutcome rfl _ (fun _ => rfl) (fun _ => rfl) (fun _ => rfl)
  emptyWithoutElse _ found ends value noElse :=
    shape.readLine_of_false statements bindings found ends value noElse

/-- A true condition whose `then` branch is empty fails the line with a missing `then`
branch, where the empty branch alone is an empty line. -/
theorem readLine_of_empty_then (shape : c.ConditionLine ifAt thenAt)
    (statements : order.statements = builtinStatements) (operands : order.OperandsAfterBinary)
    (bindings : Bindings) {test : ExprMatch}
    (found : (Dispatch.withLevels order bindings (maxNestingDepth - 1)).expression
      { c with index := ifAt + 1, stop := thenAt } = .ok (some test))
    (ends : test.next.index = thenAt) (value : test.value = .boolean true)
    (empty : thenAt + 1 = c.stop ∨ c.kindAt (thenAt + 1) = some .elseKw) :
    (readLine order bindings c).1.1 = .failed (.parse (.missingBranch "then" c.line)) ∧
      (readLine order bindings c).2 = none := by
  have same := (shape.readsByCondition statements bindings).readsThen test found ends value
    (thenAt + 1) (Nat.lt_succ_self _) shape.then_lt (fun j lo hi => absurd hi (by omega)) empty
  have noStatement : (Dispatch.withLevels order bindings (124 + 3)).statement
      { c with index := thenAt + 1, start := thenAt + 1, stop := thenAt + 1 } = .ok none :=
    Dispatch.withLevels_statement_atEnd operands (by simp [Cursor.atEnd])
  rw [show maxNestingDepth - 1 = 124 + 3 from rfl, noStatement] at same
  exact same

end Cursor.ConditionLine

/-! ### The line `if true then` -/

namespace Token

variable {cs : List Char} {spellings : List (TokenKind × String)}

/-- A token of several characters, which its first character starts. -/
theorem Spells.word {c : Char} {tail : List Char} {kind : TokenKind}
    (found : front c (tail ++ cs) = (some kind, tail.length)) (rest : Spells cs spellings) :
    Spells (c :: tail ++ cs) ((kind, String.ofList (c :: tail)) :: spellings) :=
  fun offset line gap => by
    rw [List.cons_append, scanFrom_cons_token offset line gap found, List.map_cons, List.take_left,
      List.drop_left, rest]
    rfl

theorem spells_if_true_then :
    Spells "if true then".toList [(.ifKw, "if"), (.trueKw, "true"), (.thenKw, "then")] := by
  have chars : "if true then".toList =
      ['i', 'f'] ++ ' ' :: (['t', 'r', 'u', 'e'] ++ ' ' :: (['t', 'h', 'e', 'n'] ++ [])) := by
    decide
  rw [chars]
  exact Spells.word (by decide) (Spells.blank (by decide) (Spells.word (by decide)
    (Spells.blank (by decide) (Spells.word (by decide) spells_nil))))

end Token

theorem TokenStream.start_of_line? {stream : TokenStream} {index : Nat} {c : Cursor}
    (atLine : stream.line? index = some c) : c.start = c.index := by
  obtain ⟨_, -, rfl⟩ := Option.map_eq_some_iff.mp atLine
  rfl

theorem TokenStream.lt_lineCount_of_line? {stream : TokenStream} {index : Nat} {c : Cursor}
    (atLine : stream.line? index = some c) : index < stream.lineCount := by
  simp only [TokenStream.line?, Option.map_eq_some_iff, Array.getElem?_eq_some_iff] at atLine
  obtain ⟨_, ⟨inside, -⟩, -⟩ := atLine
  exact inside

/-- The first line of a document is read under no variables. -/
theorem interpret_first_line (r : Registry) (culture text : String) {c : Cursor}
    (atLine : (TokenStream.ofSource text).line? 0 = some c) :
    ∃ d, r.interpret text culture false = .ok d ∧
      (d.lines[0]?).map LineOutcome.result = some (readLine (r.order culture) .empty c).1.1 := by
  have inside := TokenStream.lt_lineCount_of_line? atLine
  refine ⟨_, interpret_eq r text culture, ?_⟩
  rw [List.range_eq_range', lineOutcomes_getElem? _ _ _ 0 0 (by omega) inside, lineOutcome, atLine]
  rfl

/-- A text without line feeds is a document of one line, read under no variables, whose
cursor starts its view and reads what the text spells. -/
theorem interpret_of_no_lineFeed (r : Registry) (culture : String) (text : List Char)
    (noFeed : '\n' ∉ text) :
    ∃ c : Cursor, c.start = c.index ∧ c.line = 1 ∧
      (∀ spellings, Token.Spells text spellings → c.Reads spellings) ∧
      ∃ d, r.interpret (String.ofList text) culture false = .ok d ∧
        (d.lines[0]?).map LineOutcome.result = some (readLine (r.order culture) .empty c).1.1 := by
  obtain ⟨c, atLine, reads⟩ :=
    TokenStream.line?_around_line (.inl rfl) (.inl rfl) noFeed
  rw [List.nil_append, List.append_nil, List.count_nil] at atLine
  exact ⟨c, TokenStream.start_of_line? atLine, TokenStream.line_of_line? atLine, reads,
    interpret_first_line r culture _ atLine⟩

namespace Cursor

variable {c : Cursor} {spellings : List (TokenKind × String)}

theorem Reads.kindAt (reads : c.Reads spellings) {j : Nat} (below : j < spellings.length) :
    c.kindAt (c.index + j) = (spellings[j]?).map Prod.fst := by
  rw [← reads.spelled j below, Option.map_map]
  rfl

/-- Cutting a view after its first tokens leaves a view of those tokens. -/
theorem Reads.cut {front rest : List (TokenKind × String)} (reads : c.Reads (front ++ rest)) :
    ({ c with stop := c.index + front.length } : Cursor).Reads front where
  ends := rfl
  spelled j below := by
    have spelled := reads.spelled j (by simp; omega)
    rw [List.getElem?_append_left below] at spelled
    exact spelled

/-- A view that starts where the cursor stands and reads `if`, a token other than `then`,
and `then` holds a condition up to that `then`. -/
theorem Reads.conditionLine {ifText middle thenText : String} {kind : TokenKind}
    {rest : List (TokenKind × String)}
    (reads : c.Reads ((.ifKw, ifText) :: (kind, middle) :: (.thenKw, thenText) :: rest))
    (notThen : kind ≠ .thenKw) (starts : c.start = c.index) :
    c.ConditionLine c.index (c.index + 2) where
  start_le := Nat.le_of_eq starts
  index_le := Nat.le_refl _
  words _ after before := absurd before (by omega)
  onIf := by simpa using reads.kindAt (j := 0) (by simp)
  if_lt := by omega
  then_lt := by have := reads.ends; simp at this; omega
  onThen := reads.kindAt (j := 2) (by simp)
  noThen j after before := by
    obtain rfl : j = c.index + 1 := by omega
    rw [reads.kindAt (j := 1) (by simp)]
    simpa using notThen

end Cursor

section Operands

variable {c : Cursor} (bindings : Bindings) (sub : Dispatch)

/-- On a token of kind `k`, the cursor is at `kind` exactly when `kind` is `k`. -/
theorem Cursor.isAt_eq_of_kind? {k : TokenKind} (on : c.kind? = some k) (kind : TokenKind) :
    c.isAt kind = (k == kind) := by
  simp [Cursor.isAt, on]

theorem Cursor.atEnd_eq_false_of_kind? {k : TokenKind} (on : c.kind? = some k) : c.atEnd = false :=
  Bool.eq_false_iff.mpr fun atEnd => by
    rw [Cursor.kind?_of_atEnd atEnd] at on
    cases on

/-- At a token that is no parenthesis, number or word, every operand parser but the literal
parser declines. -/
theorem ExprRule.run_at_other {rule : ExprRule} (notData : rule ≠ .data)
    (notBinary : rule ≠ .binaryOperation) (notParen : c.isAt .lParen = false)
    (notNumber : c.isAt .number = false) (notWord : c.isAt .word = false) :
    rule.run bindings sub c = .ok none := by
  cases rule with
  | binaryOperation => exact absurd rfl notBinary
  | data => exact absurd rfl notData
  | group => simp [ExprRule.run, Parse.group, Cursor.skip?, notParen, pure, Except.pure]
  | function => simp [ExprRule.run, Parse.call, notWord, pure, Except.pure]
  | decimalComma => simp [ExprRule.run, Parse.decimalComma, Parse.atDigitRun, notNumber]
  | variableReference => simp [ExprRule.run, Parse.reference, notWord]

theorem Parse.data_at_true {text : String} {rest : List (TokenKind × String)}
    (reads : c.Reads ((.trueKw, text) :: rest)) :
    Parse.data c = .ok (some
      { node := .literal (.boolean true) (c.spanTo c.advance), value := .boolean true,
        next := c.advance, parser := "" }) := by
  simp only [Parse.data, reads.kind?_cons]
  rfl

end Operands

/-- An expression that starts at a token that is no parenthesis, number or word, where the
literal parser reads `m` and no operator follows, is `m`. -/
theorem Dispatch.expression_of_data {order : Order} (shape : order.OperandsAfterBinary)
    (bindings : Bindings) (levels : Nat) {c : Cursor} {m : ExprMatch}
    (notParen : c.isAt .lParen = false) (notNumber : c.isAt .number = false)
    (notWord : c.isAt .word = false) (found : Parse.data c = .ok (some m))
    (last : Parse.operatorAt? m.next = none) :
    ∃ name, (Dispatch.withLevels order bindings (levels + 2)).expression c =
      .ok (some { m with parser := name }) := by
  have operand : ∃ name, (Dispatch.withLevels order bindings (levels + 1)).operand
      ExprRule.binaryOperation.name c = (Parse.data c).map (Option.map fun m => { m with parser := name }) :=
    Dispatch.operand_of_sole shape shape.data
      (fun _ notData notBinary => ExprRule.run_at_other bindings _ notData notBinary notParen notNumber
        notWord)
      (by simp [ExprRule.run, found])
  obtain ⟨name, operand⟩ := operand
  rw [found] at operand
  obtain ⟨_, expression⟩ := Dispatch.expression_of_operand_last shape
    (show _ = Except.ok (some { m with parser := name }) from operand) last
  exact ⟨_, expression⟩

/-- A view of the one token `true` reads as the boolean true, to its end. -/
theorem Dispatch.expression_at_true {order : Order} (shape : order.OperandsAfterBinary)
    (bindings : Bindings) (levels : Nat) {c : Cursor} {text : String}
    (reads : c.Reads [(.trueKw, text)]) :
    ∃ test, (Dispatch.withLevels order bindings (levels + 2)).expression c = .ok (some test) ∧
      test.value = .boolean true ∧ test.next = { c with index := c.index + 1 } := by
  have last : Parse.operatorAt? c.advance = none := by
    simp [Parse.operatorAt?, reads.advance.kind?_nil]
  obtain ⟨_, expression⟩ := Dispatch.expression_of_data shape bindings levels
    (by rw [reads.isAt_cons]; rfl) (by rw [reads.isAt_cons]; rfl) (by rw [reads.isAt_cons]; rfl)
    (Parse.data_at_true reads) last
  exact ⟨_, expression, rfl, reads.advance_cons⟩

/-- In the built-in registry, in every culture and under any bindings, a line
`W₁ … Wₘ if C then T [else E]` reads by its condition: it fails with the condition's error,
or it reads as the branch its condition selects, read as a line of its own one nesting
level deeper, with a missing branch where no statement parser reads that branch, even an
empty one; a false condition with no `else` makes the line empty. -/
theorem condition_line_reads_as_its_branch (c : Cursor) (ifAt thenAt : Nat)
    (shape : c.ConditionLine ifAt thenAt) :
    ∃ r, RegistryBuilder.builtin.build = .ok r ∧
      ∀ culture bindings, c.ReadsByCondition (r.order culture) bindings ifAt thenAt := by
  obtain ⟨r, built, orders⟩ := builtin_orders
  exact ⟨r, built, fun culture bindings => shape.readsByCondition (orders culture).1 bindings⟩

/-- `if true then 1 else 2`, as the tokens of one line. -/
theorem if_true_then_one_else_two_reads_by_condition :
    ∃ c : Cursor, c.ConditionLine 0 2 ∧ ∃ r, RegistryBuilder.builtin.build = .ok r ∧
      ∀ culture bindings, c.ReadsByCondition (r.order culture) bindings 0 2 :=
  let line : Cursor :=
    { stream :=
        { tokens := #[⟨.ifKw, 0, 2, 0, 1, "if", ""⟩, ⟨.trueKw, 3, 4, 1, 1, "true", " "⟩,
            ⟨.thenKw, 8, 4, 1, 1, "then", " "⟩, ⟨.number, 13, 1, 1, 1, "1", " "⟩,
            ⟨.elseKw, 15, 4, 1, 1, "else", " "⟩, ⟨.number, 20, 1, 1, 1, "2", " "⟩]
          lines := #[(0, 6)] }
      index := 0, start := 0, stop := 6, line := 1 }
  have shape : line.ConditionLine 0 2 :=
    ⟨by decide, by decide, by decide, by decide, by decide, by decide, by decide,
      show ∀ j, 1 ≤ j → j < 2 → line.kindAt j ≠ some .thenKw by decide⟩
  ⟨line, shape, condition_line_reads_as_its_branch line 0 2 shape⟩

/-- The line `if true then` fails with a missing `then` branch, where its empty branch, read
alone as a document, is an empty line. -/
theorem empty_then_branch_is_missing_where_the_empty_line_is_empty :
    ∃ r, RegistryBuilder.builtin.build = .ok r ∧ ∀ culture, ∃ d d',
      r.interpret "if true then" culture false = .ok d ∧
      (d.lines[0]?).map LineOutcome.result = some (.failed (.parse (.missingBranch "then" 1))) ∧
      r.interpret "" culture false = .ok d' ∧ (d'.lines[0]?).map LineOutcome.result = some .empty := by
  obtain ⟨r, built, orders⟩ := builtin_orders
  refine ⟨r, built, fun culture => ?_⟩
  obtain ⟨statements, operands⟩ := orders culture
  obtain ⟨c, starts, line, reads, d, interpreted, outcome⟩ :=
    interpret_of_no_lineFeed r culture "if true then".toList (by decide)
  have read := reads _ Token.spells_if_true_then
  have shape := read.conditionLine (by decide) starts
  -- the condition is the one token between if and then
  have afterIf : ({ c with index := c.index + [(TokenKind.ifKw, "if")].length } : Cursor).Reads
      ([(.trueKw, "true")] ++ [(.thenKw, "then")]) :=
    Cursor.Reads.drop read
  have condition : ({ c with index := c.index + 1, stop := c.index + 2 } : Cursor).Reads
      [(.trueKw, "true")] :=
    afterIf.cut
  obtain ⟨test, found, value, next⟩ := Dispatch.expression_at_true operands .empty 125 condition
  have ends : c.index + 2 + 1 = c.stop := by
    have := read.ends
    simp only [List.length_cons, List.length_nil] at this
    omega
  have fails := shape.readLine_of_empty_then statements operands .empty found (by rw [next]) value
    (.inl ends)
  obtain ⟨c', -, -, empty, d', interpretedEmpty, outcomeEmpty⟩ :=
    interpret_of_no_lineFeed r culture [] List.not_mem_nil
  refine ⟨d, d', by rw [← interpreted, String.ofList_toList], by rw [outcome, fails.1, line],
    by rw [← interpretedEmpty, String.ofList_nil], ?_⟩
  rw [outcomeEmpty, readLine, if_pos (empty [] Token.spells_nil).atEnd_nil]

end Reckon
