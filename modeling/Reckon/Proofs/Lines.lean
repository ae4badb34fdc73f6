import Reckon.Proofs.Statements
import Reckon.Proofs.Interpretation

/-!
Contract: a document is read line by line, each line under the variables that
the lines above it declared, and a line that fails declares something only when
it fails on the tokens after a statement that declares.

A document's outcomes and final variables are those of its lines read in order
(`interpret_eq`): line `index` is read by `readLine` under `visibleBindings
index`, and what it declares gives `visibleBindings (index + 1)`.

A statement declares what its tree declares (`Stmt.declaredName?`): a
declaration its name, a condition what the branch it took declares. Every
statement match of the dispatch declares that name with its value
(`Dispatch.withLevels_declaresItsStatements`). A line fails after reading a
statement only on the tokens that follow it, and keeps the statement's
declaration (`readLine_failed`); a line that fails in any other way declares
nothing.

Owns: `visibleBindings`, `lineOutcome`, `Stmt.declaredName?`,
`StmtMatch.declaration?` and the facts above.

Does not own: what a statement's value is (`Reckon.Proofs.Evaluation`).
-/

namespace Reckon

/-! ### What a statement declares -/

/-- The name a statement declares: that of a declaration, or what the branch a
condition took declares. -/
def Stmt.declaredName? : Stmt → Option String
  | .declaration name _ _ => some name
  | .condition _ (some branch) _ => branch.declaredName?
  | _ => none

/-- The declaration a statement match stands for: the name its statement
declares, bound to its value. -/
def StmtMatch.declaration? (m : StmtMatch) : Option (String × Value) :=
  m.node.declaredName?.bind fun name => m.value.map (name, ·)

/-- Every statement the dispatch reads declares what its tree declares. -/
def Dispatch.DeclaresItsStatements (d : Dispatch) : Prop :=
  ∀ c m, d.statement c = .ok (some m) → m.declares = m.declaration?

namespace Parse

variable {sub : Dispatch} {c : Cursor} {m : StmtMatch}

theorem condition_declaresItsStatement (declaring : sub.DeclaresItsStatements)
    (found : condition sub c = .ok (some m)) : m.declares = m.declaration? := by
  obtain ⟨_, _, _, _, branch, next, -, -, -, -, -, selected, rfl⟩ := condition_eq_some found
  cases branch with
  | none => rfl
  | some chosen =>
    -- the condition declares what its branch declares, which the nested dispatch read
    obtain ⟨_, inner, parsed, sameNode, sameValue, sameDeclares⟩ := selectedBranch_chosen selected
    have innerDeclares := declaring _ _ parsed
    simp only [Option.bind_some, Option.map_some, StmtMatch.declaration?, Stmt.declaredName?]
    rw [sameNode, sameValue, sameDeclares, innerDeclares]
    rfl

end Parse

open Parse in
theorem StmtRule.run_declaresItsStatement {sub : Dispatch} (declaring : sub.DeclaresItsStatements)
    (rule : StmtRule) {c : Cursor} {m : StmtMatch} (found : rule.run sub c = .ok (some m)) :
    m.declares = m.declaration? := by
  cases rule with
  | comment =>
    obtain ⟨-, rfl⟩ := comment_eq_some found
    rfl
  | header =>
    obtain ⟨_, -, rfl⟩ := header_eq_some found
    rfl
  | condition => exact condition_declaresItsStatement declaring found
  | declaration =>
    obtain ⟨_, _, -, -, -, rfl⟩ := declaration_eq_some found
    rfl
  | conditionalExpression =>
    obtain ⟨_, op, -, -, rfl⟩ := conditionalExpression_eq_some found
    cases op.isRelational <;> rfl
  | numericalExpression =>
    obtain ⟨_, -, rfl⟩ := numericalExpression_eq_some found
    rfl

namespace Dispatch

theorem step_declaresItsStatements {order : Order} {bindings : Bindings} {sub : Dispatch}
    (declaring : sub.DeclaresItsStatements) : (step order bindings sub).DeclaresItsStatements := by
  intro c m found
  obtain ⟨_, rule, _, _, ran, rfl⟩ := firstMatch_eq_some found
  exact (StmtRule.run_declaresItsStatement declaring rule ran :)

/-- At every nesting level, every statement match declares what its tree
declares, with its value. -/
theorem withLevels_declaresItsStatements (order : Order) (bindings : Bindings) (levels : Nat) :
    (withLevels order bindings levels).DeclaresItsStatements :=
  withLevels_invariant order bindings DeclaresItsStatements (fun _ _ found => by cases found)
    (fun _ declaring => step_declaresItsStatements declaring) levels

end Dispatch

/-! ### One line -/

/-- A line that fails either read no statement and declares nothing, or read a
statement followed by other tokens, fails on the first of them and declares what
the statement declares. -/
theorem readLine_failed {order : Order} {bindings : Bindings} {c : Cursor} {e : InterpretError}
    (failed : (readLine order bindings c).1.1 = .failed e) :
    ((∀ found, (order.dispatch bindings).statement c ≠ .ok (some found)) ∧
        (readLine order bindings c).2 = none) ∨
      ∃ found, (order.dispatch bindings).statement c = .ok (some found) ∧
        e = .parse (.unexpectedTrailingTokens found.next.text c.line) ∧
        (readLine order bindings c).2 = found.declaration? := by
  have declaring := Dispatch.withLevels_declaresItsStatements order bindings maxNestingDepth
  unfold readLine at failed ⊢
  split
  · rw [if_pos ‹_›] at failed
    cases failed
  · rename_i notEmpty
    rw [if_neg notEmpty] at failed
    split
    · exact .inl ⟨fun _ parsed => by simp_all, rfl⟩
    · exact .inl ⟨fun _ parsed => by simp_all, rfl⟩
    · rename_i found parsed
      rw [parsed] at failed
      simp only at failed ⊢
      split
      · rename_i trailing
        rw [if_pos trailing] at failed
        cases failed
        exact .inr ⟨found, parsed, rfl, declaring c found parsed⟩
      · rename_i finished
        rw [if_neg finished] at failed
        split at failed <;> cases failed

/-! ### The whole document -/

/-- The variables in effect at the start of line `index` (from zero): those the
lines above it declared, each line read under the variables before it. -/
def visibleBindings (order : Order) (stream : TokenStream) : Nat → Bindings
  | 0 => Bindings.empty
  | index + 1 =>
    match stream.line? index with
    | some c =>
      (visibleBindings order stream index).apply
        (readLine order (visibleBindings order stream index) c).2
    | none => visibleBindings order stream index

/-- The outcome of line `index`, read under the variables in effect there. -/
def lineOutcome (order : Order) (stream : TokenStream) (index : Nat) : Option LineOutcome :=
  (stream.line? index).map fun c =>
    let ((result, parser), _) := readLine order (visibleBindings order stream index) c
    { line := index + 1, result, parser }

theorem TokenStream.line?_isSome {stream : TokenStream} {index : Nat}
    (inside : index < stream.lineCount) : (stream.line? index).isSome := by
  simp only [TokenStream.line?, TokenStream.lineCount] at inside ⊢
  simp [inside]

theorem TokenStream.line_of_line? {stream : TokenStream} {index : Nat} {c : Cursor}
    (atLine : stream.line? index = some c) : c.line = index + 1 := by
  obtain ⟨_, -, rfl⟩ := Option.map_eq_some_iff.mp atLine
  rfl

/-- Reading the lines from `index` on, under the variables in effect there, gives
each line's outcome and the variables in effect after the last. -/
theorem readLines_range' (order : Order) (stream : TokenStream) :
    ∀ count index, index + count ≤ stream.lineCount →
      readLines order stream (visibleBindings order stream index) (List.range' index count) =
        ((List.range' index count).filterMap (lineOutcome order stream),
          visibleBindings order stream (index + count))
  | 0, index, _ => rfl
  | count + 1, index, inside => by
    obtain ⟨c, atLine⟩ := Option.isSome_iff_exists.mp
      (TokenStream.line?_isSome (show index < stream.lineCount by omega))
    have rest := readLines_range' order stream count (index + 1) (by omega)
    have nextBindings : visibleBindings order stream (index + 1) =
        (visibleBindings order stream index).apply
          (readLine order (visibleBindings order stream index) c).2 := by
      rw [visibleBindings, atLine]
    rw [List.range'_succ, readLines, List.filterMap_cons, lineOutcome, atLine, Option.map_some]
    simp only
    rw [← nextBindings, rest, show index + 1 + count = index + (count + 1) by omega]

/-- Lines `index` to `index + count - 1`, counted from zero, have one outcome
each, numbered from `index + 1`. -/
theorem lineOutcomes_lines (order : Order) (stream : TokenStream) :
    ∀ count index, index + count ≤ stream.lineCount →
      ((List.range' index count).filterMap (lineOutcome order stream)).map (·.line) =
        List.range' (index + 1) count
  | 0, _, _ => rfl
  | count + 1, index, inside => by
    obtain ⟨c, atLine⟩ := Option.isSome_iff_exists.mp
      (TokenStream.line?_isSome (show index < stream.lineCount by omega))
    rw [List.range'_succ, List.filterMap_cons, lineOutcome, atLine, Option.map_some, List.map_cons,
      lineOutcomes_lines order stream count (index + 1) (by omega), List.range'_succ]

/-- A document has one outcome per line, numbered from one. -/
theorem lineOutcomes_numbered (order : Order) (stream : TokenStream) :
    ((List.range stream.lineCount).filterMap (lineOutcome order stream)).map (·.line) =
      List.range' 1 stream.lineCount := by
  rw [List.range_eq_range']
  exact lineOutcomes_lines order stream _ 0 (by omega)

/-- Outcome `index` of lines `start` to `start + count - 1` is that of line `start + index`. -/
theorem lineOutcomes_getElem? (order : Order) (stream : TokenStream) :
    ∀ count start index, start + count ≤ stream.lineCount → index < count →
      ((List.range' start count).filterMap (lineOutcome order stream))[index]? =
        lineOutcome order stream (start + index)
  | 0, _, _, _, outside => absurd outside (Nat.not_lt_zero _)
  | count + 1, start, index, inside, below => by
    have present : (lineOutcome order stream start).isSome := by
      rw [lineOutcome, Option.isSome_map]
      exact TokenStream.line?_isSome (show start < stream.lineCount by omega)
    obtain ⟨outcome, found⟩ := Option.isSome_iff_exists.mp present
    rw [List.range'_succ, List.filterMap_cons, found]
    cases index with
    | zero =>
      show _ = lineOutcome order stream start
      rw [found]
      rfl
    | succ index =>
      rw [List.getElem?_cons_succ, lineOutcomes_getElem? order stream count (start + 1) index
        (by omega) (by omega), Nat.add_right_comm, Nat.add_assoc]

/-- A document's outcomes and final variables are those of its lines, each read
under the variables that the lines above it declared. -/
theorem interpret_eq (r : Registry) (text culture : String) :
    r.interpret text culture false =
      .ok { lines := (List.range (TokenStream.ofSource text).lineCount).filterMap
              (lineOutcome (r.order culture) (TokenStream.ofSource text)),
            bindings := visibleBindings (r.order culture) (TokenStream.ofSource text)
              (TokenStream.ofSource text).lineCount } := by
  have whole := readLines_range' (r.order culture) (TokenStream.ofSource text)
    (TokenStream.ofSource text).lineCount 0 (by omega)
  rw [Nat.zero_add, ← List.range_eq_range'] at whole
  rw [Registry.interpret_not_cancelled, show Bindings.empty = visibleBindings (r.order culture) (TokenStream.ofSource text) 0 from rfl,
    whole]

/-- A line that fails keeps the variables in effect before it, except where it
read a statement and failed on the tokens after it: what that statement declares
then stays in effect for the lines below. The outcomes and final variables of a
document are those of its lines, so this holds of every line it records as
failed, and of the final variables after its last line. -/
theorem failed_line_keeps_bindings_unless_trailing_tokens (r : Registry) (text culture : String) :
    let order := r.order culture
    let stream := TokenStream.ofSource text
    r.interpret text culture false =
        .ok { lines := (List.range stream.lineCount).filterMap (lineOutcome order stream),
              bindings := visibleBindings order stream stream.lineCount } ∧
      ∀ index c e, stream.line? index = some c →
        (readLine order (visibleBindings order stream index) c).1.1 = .failed e →
        ((∀ found,
              (order.dispatch (visibleBindings order stream index)).statement c ≠ .ok (some found)) ∧
            visibleBindings order stream (index + 1) = visibleBindings order stream index) ∨
          ∃ found,
            (order.dispatch (visibleBindings order stream index)).statement c = .ok (some found) ∧
            e = .parse (.unexpectedTrailingTokens found.next.text (index + 1)) ∧
            visibleBindings order stream (index + 1) =
              (visibleBindings order stream index).apply found.declaration? := by
  intro order stream
  refine ⟨interpret_eq r text culture, fun index c e atLine failed => ?_⟩
  have below : visibleBindings order stream (index + 1) =
      (visibleBindings order stream index).apply
        (readLine order (visibleBindings order stream index) c).2 := by
    rw [visibleBindings, atLine]
  rcases readLine_failed failed with ⟨unread, nothing⟩ | ⟨found, parsed, trailing, declared⟩
  · exact .inl ⟨unread, by rw [below, nothing]; rfl⟩
  · rw [TokenStream.line_of_line? atLine] at trailing
    exact .inr ⟨found, parsed, trailing, by rw [below, declared]⟩

end Reckon
