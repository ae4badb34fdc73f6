import Reckon.Proofs.Lines
import Reckon.Proofs.Evaluation

/-!
Contract: reading changes the variables only by the one declaration a
statement ends in.

In a pass the entry points share one state, the variables and the nesting
depth. An expression entry point leaves it as it found it, whatever it returns;
a statement entry point gives the depth back, and changes the variables only
when it reads a statement, by the declaration that statement carries
(`Interp.withLevels_reads`), so no attempt that fails or declines changes what a
later attempt sees. At every nesting level that declaration is the one at the
end of the branches the statement took (`Stmt.finalDeclaration?`), binding its
name to the value of its expression under the variables the dispatch started
with (`Dispatch.withLevels_declares_iff`). A line makes that declaration when
the dispatch reads its statement, and none when the line is empty or the
dispatch fails or reads nothing (`readLine_declares_iff`).

Owns: `Stmt.finalDeclaration?` and the facts above.
Does not own: how a declaration is kept when its line fails
(`Reckon.Proofs.Lines`); the value a tree evaluates to
(`Reckon.Proofs.Evaluation`).
-/

set_option autoImplicit false

namespace Reckon

/-- The declaration at the end of the branches a statement took: a declaration's
name and expression, or what the branch a condition took ends in. -/
def Stmt.finalDeclaration? : Stmt → Option (String × Expr)
  | .declaration name e _ => some (name, e)
  | .condition _ (some branch) _ => branch.finalDeclaration?
  | _ => none

theorem Stmt.declaredName?_eq_map : ∀ s : Stmt, s.declaredName? = s.finalDeclaration?.map Prod.fst
  | .declaration .. => rfl
  | .condition _ (some branch) _ => declaredName?_eq_map branch
  | .condition _ none _ => rfl
  | .calculation .. => rfl
  | .comment .. => rfl
  | .header .. => rfl

/-- An expression evaluates to at most one value. -/
theorem Expr.Evaluates.unique {bindings : Bindings} {e : Expr} {v w : Value}
    (first : e.Evaluates bindings v) (second : e.Evaluates bindings w) : v = w := by
  have same := (first 0).symm.trans (second 0)
  simpa using same

/-- A statement that ends in a declaration yields the value of the declaration's
expression. -/
theorem Stmt.Yields.final {bindings : Bindings} {rule : StmtRule} {s : Stmt}
    {value : Option Value} (yields : Stmt.Yields bindings rule s value) {name : String} {e : Expr}
    (final : s.finalDeclaration? = some (name, e)) :
    ∃ v, value = some v ∧ e.Evaluates bindings v := by
  induction yields with
  | declaration evaluates =>
    cases final
    exact ⟨_, rfl, evaluates⟩
  | taken _ _ branchFinal => exact branchFinal final
  | comment | header | calculation | fastCalculation | fastCondition | untaken =>
    cases final

/-- The declaration a statement match stands for is its final declaration, bound
to the value of that declaration's expression. -/
theorem StmtMatch.declaration?_eq_some_iff {bindings : Bindings} {rule : StmtRule} {m : StmtMatch}
    (yields : Stmt.Yields bindings rule m.node m.value) {name : String} {v : Value} :
    m.declaration? = some (name, v) ↔
      ∃ e, m.node.finalDeclaration? = some (name, e) ∧ e.Evaluates bindings v := by
  unfold StmtMatch.declaration?
  rw [Stmt.declaredName?_eq_map]
  constructor
  · intro declared
    obtain ⟨declaredName, named, valued⟩ := Option.bind_eq_some_iff.1 declared
    obtain ⟨⟨finalName, e⟩, final, rfl⟩ := Option.map_eq_some_iff.1 named
    obtain ⟨w, valueIs, evaluates⟩ := yields.final final
    rw [valueIs] at valued
    simp only [Option.map_some, Option.some.injEq, Prod.mk.injEq] at valued
    obtain ⟨rfl, rfl⟩ := valued
    exact ⟨e, final, evaluates⟩
  · rintro ⟨e, final, evaluates⟩
    obtain ⟨w, valued, evaluatesW⟩ := yields.final final
    rw [final, valued, evaluatesW.unique evaluates]
    rfl

namespace Dispatch

/-- At every nesting level, a statement match declares exactly its final
declaration, with the value its expression has under the variables the
dispatch was given. -/
theorem withLevels_declares_iff (order : Order) (bindings : Bindings) (levels : Nat) {c : Cursor}
    {m : StmtMatch} (found : (withLevels order bindings levels).statement c = .ok (some m))
    {name : String} {v : Value} :
    m.declares = some (name, v) ↔
      ∃ e, m.node.finalDeclaration? = some (name, e) ∧ e.Evaluates bindings v := by
  obtain ⟨rule, -, yields⟩ := (withLevels_sound order bindings levels).statement c m found
  rw [withLevels_declaresItsStatements order bindings levels c m found]
  exact StmtMatch.declaration?_eq_some_iff yields

end Dispatch

/-- A line declares what the statement the dispatch read there declares, and
nothing when it is empty or the dispatch fails or reads no statement. -/
theorem readLine_declares_iff (order : Order) (bindings : Bindings) (c : Cursor)
    (d : String × Value) :
    (readLine order bindings c).2 = some d ↔
      c.atEnd = false ∧ ∃ m, (order.dispatch bindings).statement c = .ok (some m) ∧
        m.declares = some d := by
  unfold readLine
  split
  · rename_i atEnd
    simp [atEnd]
  · rename_i notAtEnd
    split
    · rename_i e failed
      simp [failed]
    · rename_i declined
      simp [declined]
    · rename_i found parsed
      simp only [parsed, Bool.not_eq_true] at notAtEnd ⊢
      split <;> simp [notAtEnd]

/-- A line declares exactly the final declaration of the statement the dispatch read
there, bound to the value of its expression under the variables the line started with; a line
that is empty, or whose dispatch fails or reads no statement, declares nothing. -/
theorem readLine_declares_final_iff (order : Order) (bindings : Bindings) (c : Cursor)
    (name : String) (v : Value) :
    (readLine order bindings c).2 = some (name, v) ↔
      c.atEnd = false ∧ ∃ m e, (order.dispatch bindings).statement c = .ok (some m) ∧
        m.node.finalDeclaration? = some (name, e) ∧ e.Evaluates bindings v := by
  rw [readLine_declares_iff]
  constructor
  · rintro ⟨notAtEnd, m, found, declared⟩
    obtain ⟨e, final, evaluates⟩ :=
      (Dispatch.withLevels_declares_iff order bindings _ found).1 declared
    exact ⟨notAtEnd, m, e, found, final, evaluates⟩
  · rintro ⟨notAtEnd, m, e, found, final, evaluates⟩
    have declared :=
      (Dispatch.withLevels_declares_iff order bindings _ found).2 ⟨e, final, evaluates⟩
    exact ⟨notAtEnd, m, found, declared⟩

/-- In a pass, dispatch changes nothing but what a statement declares. From any state and at
any nesting level, an expression entry point leaves the state as it found it, whatever it
returns. A statement entry point comes back with the depth it was entered with; when it fails
or reads nothing it leaves the state as it was, and when it reads a statement it changes the
variables by the one declaration that statement carries, if any: the declaration at the end of
the branches the statement took, binding its name to the value of its expression under the
variables the dispatch started with. -/
theorem pass_dispatch_changes_only_the_final_declaration (order : Order) (levels : Nat)
    (s : Interpretation) (c : Cursor) :
    (((Interp.withLevels order levels).expression c).runFrom s).2 = s ∧
    (∀ stop, (((Interp.withLevels order levels).expressionUntil c stop).runFrom s).2 = s) ∧
    (∀ name, (((Interp.withLevels order levels).operand name c).runFrom s).2 = s) ∧
    ∀ result after, ((Interp.withLevels order levels).statement c).runFrom s = (result, after) →
      after.depth = s.depth ∧
      ((∀ m, result ≠ .ok (some m)) → after = s) ∧
      ∀ m, result = .ok (some m) →
        after.bindings = s.bindings.apply m.declares ∧
        ∀ name v, m.declares = some (name, v) ↔
          ∃ e, m.node.finalDeclaration? = some (name, e) ∧ e.Evaluates s.bindings v := by
  -- the pass reads what the pure dispatch of its variables reads, with the levels both the
  -- recursion and the depth limit leave
  have reads := Interp.withLevels_reads order levels s
  refine ⟨by rw [reads.expression], fun stop => by rw [reads.expressionUntil],
    fun name => by rw [reads.operand], ?_⟩
  intro result after ran
  rw [reads.statement, Prod.mk.injEq] at ran
  obtain ⟨rfl, rfl⟩ := ran
  refine ⟨s.declaring_depth _, s.declaring_of_not_read, fun m found => ⟨?_, fun name v => ?_⟩⟩
  · rw [found]
    rfl
  · exact Dispatch.withLevels_declares_iff order s.bindings _ found

end Reckon
