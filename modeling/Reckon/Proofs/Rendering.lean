import Reckon.Proofs.OneLine
import Reckon.Proofs.Lines

/-!
Contract: rendering keeps one line of text per document line.

A pass writes the outcome of each line as one line of text and joins them with
line feeds, so cutting the result at its line feeds gives back one piece per
document line as long as no outcome's text holds a line feed
(`DocumentResult.split_render`). None does. Every value a parser reads is one
line, every error it fails with has a message of one line, and every match
ends in the line it started in (`ExprMatch.Fits`, `StmtMatch.Fits`,
`Dispatch.Fits`). Each parser keeps this when nested dispatch does, with one
lemma per parser; so dispatch has it at every nesting level under variables of
one line (`Dispatch.withLevels_fits`). A line read under such variables
renders as one line and declares only values of one line (`readLine_fits`),
hence, line by line, the variables in effect at every line are of one line
(`visibleBindings_oneLine`).

Why it holds: a parser quotes the source only through the token under a cursor
in its line (the first extra token of a line, the name of a called function, a
text literal less its quotes), and the scanner puts no line feed into such a
token (`Reckon.Proofs.OneLine`).

Owns: `Bindings.OneLine`, the `Fits` predicates and the facts above.
Does not own: which texts are one line (`Reckon.Proofs.OneLine`); reading a
document line by line (`Reckon.Proofs.Lines`).
-/

set_option autoImplicit false

namespace Reckon

open Except

/-! ### What fits a line -/

/-- Bindings whose values are all written on one line. -/
def Bindings.OneLine (b : Bindings) : Prop :=
  ∀ entry ∈ b.entries, entry.2.OneLine

/-- An expression read in a line of `source` that can be rendered: its value is
one line, and it ends in that line. -/
structure ExprMatch.Fits (source : String) (m : ExprMatch) : Prop where
  value : m.value.OneLine
  next : m.next.InLine (TokenStream.ofSource source)

/-- A statement read in a line of `source` that can be rendered: its value and
what it declares are one line, and it ends in that line. -/
structure StmtMatch.Fits (source : String) (m : StmtMatch) : Prop where
  value : ∀ v ∈ m.value, v.OneLine
  declares : ∀ d ∈ m.declares, d.2.OneLine
  next : m.next.InLine (TokenStream.ofSource source)

/-- An attempt that fails with a message of one line, declines, or reads a match
that `fits`. -/
def Attempt.Fits {α : Type} (fits : α → Prop) (attempt : Attempt α) : Prop :=
  attempt.Satisfies (fun found => ∀ m ∈ found, fits m) InterpretError.OneLine

/-- Every entry point, at every cursor in a line of `source`, fails with a
message of one line, declines, or reads a match that fits the line. -/
structure Dispatch.Fits (source : String) (d : Dispatch) : Prop where
  expression : ∀ c, c.InLine (TokenStream.ofSource source) →
    Attempt.Fits (ExprMatch.Fits source) (d.expression c)
  operand : ∀ name c, c.InLine (TokenStream.ofSource source) →
    Attempt.Fits (ExprMatch.Fits source) (d.operand name c)
  statement : ∀ c, c.InLine (TokenStream.ofSource source) →
    Attempt.Fits (StmtMatch.Fits source) (d.statement c)

/-- An error raised at runtime has a message of one line when it did. -/
@[simp] theorem InterpretError.oneLine_runtime {e : RuntimeError} :
    (InterpretError.runtime e).OneLine ↔ e.OneLine := by
  simp

namespace Bindings

theorem mem_insertSorted {name : String} {value : Value} {entry : String × Value} :
    ∀ {entries : List (String × Value)}, entry ∈ insertSorted name value entries →
      entry = (name, value) ∨ entry ∈ entries
  | [], member => by simpa [insertSorted] using member
  | (key, old) :: rest, member => by
    unfold insertSorted at member
    split at member
    · simpa using member
    · split at member
      · simp only [List.mem_cons] at member ⊢
        rcases member with same | later
        · exact .inl same
        · exact .inr (.inr later)
      · simp only [List.mem_cons] at member ⊢
        rcases member with same | later
        · exact .inr (.inl same)
        · rcases mem_insertSorted later with new | old
          · exact .inl new
          · exact .inr (.inr old)

theorem oneLine_empty : empty.OneLine := by
  simp [Bindings.OneLine, empty]

theorem OneLine.get? {b : Bindings} (oneLine : b.OneLine) {name : String} {v : Value}
    (bound : b.get? name = some v) : v.OneLine := by
  unfold Bindings.get? at bound
  obtain ⟨entry, found, rfl⟩ := Option.map_eq_some_iff.mp bound
  exact oneLine entry (List.mem_of_find?_eq_some found)

theorem OneLine.apply {b : Bindings} (oneLine : b.OneLine) {declares : Option (String × Value)}
    (declaresOneLine : ∀ d ∈ declares, d.2.OneLine) : (b.apply declares).OneLine := by
  cases declares with
  | none => exact oneLine
  | some d =>
    intro entry member
    rcases mem_insertSorted member with new | old
    · rw [new]
      exact declaresOneLine d rfl
    · exact oneLine entry old

end Bindings

/-! ### Operands -/

namespace Parse

variable {source : String} {sub : Dispatch} {c : Cursor}

theorem data_fits (inLine : c.InLine (TokenStream.ofSource source)) :
    Attempt.Fits (ExprMatch.Fits source) (data c) := by
  unfold data Attempt.Fits
  dsimp only
  split
  case h_1 | h_2 => simpa using ⟨by simp, inLine.advance⟩
  case h_3 =>
    -- a text literal is the token less its quotes, so no more than the token's one line
    have textOneLine : OneLine c.text := inLine.text_oneLine
    have innerOneLine : '\n' ∉ c.text.toList.tail.dropLast := fun member =>
      textOneLine (List.mem_of_mem_tail ((List.dropLast_sublist _).subset member))
    simpa using ⟨by split <;> simp [innerOneLine, textOneLine], inLine.advance⟩
  case h_4 =>
    have read := readNumber_satisfies c.text false c.line
    split
    · rename_i value readOk
      simpa using ⟨read.of_ok readOk, inLine.advance⟩
    · rename_i e readFailed
      simpa using read.of_error readFailed
  case h_5 =>
    split
    · rename_i number following
      have read := readNumber_satisfies number.text true c.line
      split
      · split
        · rename_i value readOk
          simpa using ⟨read.of_ok readOk, (inLine.next? following).advance⟩
        · rename_i e readFailed
          simpa using read.of_error readFailed
      · simp
    · simp
  case h_6 => simp

theorem reference_fits {bindings : Bindings} (bindingsOneLine : bindings.OneLine)
    (inLine : c.InLine (TokenStream.ofSource source)) :
    Attempt.Fits (ExprMatch.Fits source) (reference bindings c) := by
  unfold reference Attempt.Fits
  split
  · split
    · rename_i value bound
      simpa using ⟨bindingsOneLine.get? bound, inLine.advance⟩
    · simp
  · simp

theorem decimalComma_fits (inLine : c.InLine (TokenStream.ofSource source)) :
    Attempt.Fits (ExprMatch.Fits source) (decimalComma c) := by
  unfold decimalComma Attempt.Fits
  split
  · simp
  · dsimp only
    split
    · simp
    · rename_i fraction chosen
      split
      · simp
      · simp only [Option.filter_eq_some_iff, Option.bind_eq_some_iff] at chosen
        obtain ⟨⟨comma, ⟨following, -⟩, afterComma⟩, -⟩ := chosen
        simpa using ⟨by simp, ((inLine.next? following).next? afterComma).advance⟩

theorem group_fits (fits : sub.Fits source) (inLine : c.InLine (TokenStream.ofSource source)) :
    Attempt.Fits (ExprMatch.Fits source) (group sub c) := by
  unfold group Attempt.Fits
  split
  · simp
  · rename_i innerStart opened
    simp only [satisfies_bind]
    refine (fits.expression innerStart (inLine.skip? opened)).mono (fun found foundFits => ?_)
      (fun _ => id)
    cases found with
    | none => simp
    | some inner =>
      have innerFits := foundFits inner rfl
      dsimp only
      split
      · rename_i next closed
        simpa using ⟨innerFits.value, innerFits.next.skip? closed⟩
      · simp

/-- Every item of an argument list fits, the list ends in the line, and every
error is one line. -/
theorem argumentItems_fits (fits : sub.Fits source) {listStart : Cursor} {bound : Nat}
    {current : Cursor} {read : List ExprMatch} (inLine : current.InLine (TokenStream.ofSource source))
    (readFits : ∀ m ∈ read, m.Fits source) :
    (argumentItems sub listStart bound current read).Satisfies
      (fun result => (∀ m ∈ result.1, m.Fits source) ∧ result.2.InLine (TokenStream.ofSource source))
      InterpretError.OneLine := by
  fun_induction argumentItems sub listStart bound current read with
  | case1 current read e failed => simpa using (fits.expression current inLine).of_error failed
  | case3 current read item parsed _ _ inductionHypothesis
  | case5 current read item parsed _ _ inductionHypothesis =>
    have itemFits : item.Fits source := (fits.expression current inLine).of_ok parsed item rfl
    refine inductionHypothesis itemFits.next.advance fun m member => ?_
    rcases List.mem_append.mp member with before | isItem
    · exact readFits m before
    · rw [List.mem_singleton.mp isItem]
      exact itemFits
  | case7 current read item parsed _ =>
    have itemFits : item.Fits source := (fits.expression current inLine).of_ok parsed item rfl
    refine ⟨fun m member => ?_, itemFits.next.advance⟩
    rcases List.mem_append.mp member with before | isItem
    · exact readFits m before
    · rw [List.mem_singleton.mp isItem]
      exact itemFits
  | case2 _ _ missing | case4 _ _ missing | case6 _ _ missing | case8 _ _ missing => simp [missing]

theorem arguments_fits (fits : sub.Fits source) {listStart : Cursor}
    (inLine : listStart.InLine (TokenStream.ofSource source)) :
    (arguments sub listStart).Satisfies
      (fun result => (∀ m ∈ result.1, m.Fits source) ∧ result.2.InLine (TokenStream.ofSource source))
      InterpretError.OneLine := by
  unfold arguments
  split
  · rename_i after closed
    simpa using inLine.skip? closed
  · exact argumentItems_fits fits inLine (by simp)

/-- A call's value is a number or one of its arguments, and its errors quote
only its name, which is the token under the cursor. -/
theorem call_fits (fits : sub.Fits source) (inLine : c.InLine (TokenStream.ofSource source)) :
    Attempt.Fits (ExprMatch.Fits source) (call sub c) := by
  unfold call Attempt.Fits
  split
  · simp
  · dsimp only
    split
    · rename_i listStart opened
      simp only [satisfies_bind]
      refine (arguments_fits fits ((inLine.advance).skip? opened)).mono
        (fun result resultFits => ?_) (fun _ => id)
      obtain ⟨items, next⟩ := result
      obtain ⟨itemsFits, nextInLine⟩ := resultFits
      have called : (callBuiltin c.text (items.map ExprMatch.value) c.line).Satisfies Value.OneLine
          RuntimeError.OneLine :=
        callBuiltin_satisfies c.line inLine.text_oneLine
          (by simpa using fun m member => (itemsFits m member).value)
      dsimp only
      split
      · rename_i value calledOk
        simpa using ⟨called.of_ok calledOk, nextInLine⟩
      · rename_i e calledFailed
        simpa using called.of_error calledFailed
    · simp

/-! ### Operator chains -/

theorem combine_fits {left right : ExprMatch} {op : BinaryOperator} {line : Nat}
    (rightFits : right.Fits source) :
    (combine left op right line).Satisfies (ExprMatch.Fits source) InterpretError.OneLine := by
  have applied := BinaryOperator.apply_satisfies line op left.value right.value
  unfold combine
  split
  · rename_i e failed
    simpa using applied.of_error failed
  · rename_i value appliedOk
    exact ⟨applied.of_ok appliedOk, rightFits.next⟩

section Chains

variable {operand : Cursor → Attempt ExprMatch}
  (operandFits : ∀ p, p.InLine (TokenStream.ofSource source) →
    Attempt.Fits (ExprMatch.Fits source) (operand p))
include operandFits

theorem climb_fits (bound minPrecedence : Nat) {left : ExprMatch} (leftFits : left.Fits source) :
    (climb operand bound minPrecedence left).Satisfies (ExprMatch.Fits source)
      InterpretError.OneLine :=
  (climb_tighten_satisfies (ExprMatch.Fits source) InterpretError.OneLine
    (fun _ _ leftFits _ => operandFits _ leftFits.next.advance)
    (fun _ _ _ _ rightFits => combine_fits rightFits)).1 minPrecedence left leftFits

theorem binaryOperation_fits (inLine : c.InLine (TokenStream.ofSource source)) :
    Attempt.Fits (ExprMatch.Fits source) (binaryOperation operand c) := by
  have first := operandFits c inLine
  unfold binaryOperation Attempt.Fits
  split
  · rename_i e failed
    simpa using first.of_error failed
  · simp
  · rename_i found read
    have climbed := climb_fits operandFits c.stop 1 (first.of_ok read found rfl)
    split
    · rename_i e failed
      simpa using climbed.of_error failed
    · rename_i chain chained
      simpa using climbed.of_ok chained

end Chains

end Parse

/-- Each expression rule reads what fits its line, given nested dispatch that
does and bindings of one line. -/
theorem ExprRule.run_fits (rule : ExprRule) {source : String} {bindings : Bindings}
    (bindingsOneLine : bindings.OneLine) {sub : Dispatch} (fits : sub.Fits source) {c : Cursor}
    (inLine : c.InLine (TokenStream.ofSource source)) :
    Attempt.Fits (ExprMatch.Fits source) (rule.run bindings sub c) := by
  cases rule
  case binaryOperation => exact Parse.binaryOperation_fits (fun p => fits.operand _ p) inLine
  case group => exact Parse.group_fits fits inLine
  case function => exact Parse.call_fits fits inLine
  case decimalComma => exact Parse.decimalComma_fits inLine
  case data => exact Parse.data_fits inLine
  case variableReference => exact Parse.reference_fits bindingsOneLine inLine

/-! ### Statements -/

namespace Dispatch.Fits

variable {source : String} {d : Dispatch} {c : Cursor}

theorem expressionUntil (fits : d.Fits source) (inLine : c.InLine (TokenStream.ofSource source))
    (stop : TokenKind) : Attempt.Fits (ExprMatch.Fits source) (d.expressionUntil c stop) := by
  unfold Dispatch.expressionUntil Attempt.Fits
  simp only [satisfies_bind]
  refine (fits.expression _ inLine.until).mono (fun found foundFits => ?_) (fun _ => id)
  cases found with
  | none => simp
  | some found => simpa using ⟨(foundFits found rfl).value, inLine.resume found.next⟩

theorem statementUntil (fits : d.Fits source) (inLine : c.InLine (TokenStream.ofSource source))
    (stop : TokenKind) : Attempt.Fits (StmtMatch.Fits source) (d.statementUntil c stop) := by
  unfold Dispatch.statementUntil Attempt.Fits
  simp only [satisfies_bind]
  refine (fits.statement _ inLine.until).mono (fun found foundFits => ?_) (fun _ => id)
  cases found with
  | none => simp
  | some found =>
    have foundFits := foundFits found rfl
    simpa using ⟨foundFits.value, foundFits.declares, inLine.resume found.next⟩

end Dispatch.Fits

namespace Parse

variable {source : String} {sub : Dispatch} {c : Cursor}

theorem comment_fits (inLine : c.InLine (TokenStream.ofSource source)) :
    Attempt.Fits (StmtMatch.Fits source) (comment c) := by
  unfold comment Attempt.Fits
  split
  · simpa using ⟨by simp, by simp, inLine.advance⟩
  · simp

theorem header_fits (inLine : c.InLine (TokenStream.ofSource source)) :
    Attempt.Fits (StmtMatch.Fits source) (header c) := by
  unfold header Attempt.Fits
  split
  · simpa using ⟨by simp, by simp, inLine.endOfView⟩
  · simp

theorem declaration_fits (fits : sub.Fits source) (inLine : c.InLine (TokenStream.ofSource source)) :
    Attempt.Fits (StmtMatch.Fits source) (declaration sub c) := by
  unfold declaration Attempt.Fits
  split
  · simp
  · split
    · simp
    · rename_i valueStart skipped
      have value := fits.expression valueStart (inLine.advance.skip? skipped)
      split
      · rename_i e failed
        simpa using value.of_error failed
      · simp
      · rename_i found parsed
        have foundFits := value.of_ok parsed found rfl
        simpa using ⟨by simpa using foundFits.value, by simpa using foundFits.value, foundFits.next⟩

theorem conditionalExpression_fits (fits : sub.Fits source)
    (inLine : c.InLine (TokenStream.ofSource source)) :
    Attempt.Fits (StmtMatch.Fits source) (conditionalExpression sub c) := by
  have value := fits.expression c inLine
  unfold conditionalExpression Attempt.Fits
  split
  · rename_i e failed
    simpa using value.of_error failed
  · simp
  · rename_i found parsed
    have foundFits := value.of_ok parsed found rfl
    split
    · simp
    · simpa using ⟨by simpa using foundFits.value, by simp, foundFits.next⟩

theorem numericalExpression_fits (fits : sub.Fits source)
    (inLine : c.InLine (TokenStream.ofSource source)) :
    Attempt.Fits (StmtMatch.Fits source) (numericalExpression sub c) := by
  have value := fits.expression c inLine
  unfold numericalExpression Attempt.Fits
  split
  · rename_i e failed
    simpa using value.of_error failed
  · simp
  · rename_i found parsed
    have foundFits := value.of_ok parsed found rfl
    simpa using ⟨by simpa using foundFits.value, by simp, foundFits.next⟩

/-- The branch a condition selects fits the line, and so does where the
condition ends; a missing branch quotes only its keyword. -/
theorem selectedBranch_fits (fits : sub.Fits source) (inLine : c.InLine (TokenStream.ofSource source))
    {branchStart : Cursor} (branchInLine : branchStart.InLine (TokenStream.ofSource source))
    (taken : Bool) :
    (selectedBranch sub c branchStart taken).Satisfies
      (fun result => (∀ m ∈ result.1, m.Fits source) ∧ result.2.InLine (TokenStream.ofSource source))
      InterpretError.OneLine := by
  unfold selectedBranch
  split
  · have branch := fits.statementUntil branchInLine .elseKw
    split
    · rename_i e failed
      simpa using branch.of_error failed
    · simp +decide
    · rename_i found parsed
      have foundFits := branch.of_ok parsed found rfl
      refine ⟨by simpa using foundFits, ?_⟩
      dsimp only
      split
      · exact foundFits.next.endOfView
      · exact foundFits.next
  · split
    · rename_i elseToken sought
      have branch := fits.statement _ (branchInLine.seek? sought).advance
      split
      · rename_i e failed
        simpa using branch.of_error failed
      · simp +decide
      · rename_i found parsed
        have foundFits := branch.of_ok parsed found rfl
        simpa using ⟨foundFits, foundFits.next⟩
    · simpa using inLine.endOfView

theorem condition_fits (fits : sub.Fits source) (inLine : c.InLine (TokenStream.ofSource source)) :
    Attempt.Fits (StmtMatch.Fits source) (condition sub c) := by
  unfold condition Attempt.Fits
  split
  · simp
  · rename_i conditionStart skipped
    have startInLine := inLine.skip? skipped
    split
    · simp
    · rename_i thenToken sought
      have test := fits.expressionUntil startInLine .thenKw
      split
      · rename_i e failed
        simpa using test.of_error failed
      · simp
      · split
        · simp
        · split
          · simp
          · rename_i taken _
            have branch := selectedBranch_fits fits inLine (startInLine.seek? sought).advance taken
            split
            · rename_i e failed
              simpa using branch.of_error failed
            · rename_i chosen next selected
              obtain ⟨chosenFits, nextInLine⟩ := branch.of_ok selected
              -- the condition has the value and the declaration of the branch it ran
              have valueFits : ∀ v ∈ chosen.bind StmtMatch.value, v.OneLine := fun v member => by
                obtain ⟨m, chosenIs, valueIs⟩ := Option.mem_bind_iff.mp member
                exact (chosenFits m chosenIs).value v valueIs
              have declaresFits : ∀ d ∈ chosen.bind StmtMatch.declares, d.2.OneLine :=
                fun d member => by
                  obtain ⟨m, chosenIs, declaresIs⟩ := Option.mem_bind_iff.mp member
                  exact (chosenFits m chosenIs).declares d declaresIs
              simpa using (⟨valueFits, declaresFits, nextInLine⟩ : StmtMatch.Fits source _)

end Parse

/-- Each statement rule reads what fits its line, given nested dispatch that does. -/
theorem StmtRule.run_fits (rule : StmtRule) {source : String} {sub : Dispatch}
    (fits : sub.Fits source) {c : Cursor} (inLine : c.InLine (TokenStream.ofSource source)) :
    Attempt.Fits (StmtMatch.Fits source) (rule.run sub c) := by
  cases rule
  case comment => exact Parse.comment_fits inLine
  case header => exact Parse.header_fits inLine
  case condition => exact Parse.condition_fits fits inLine
  case declaration => exact Parse.declaration_fits fits inLine
  case conditionalExpression => exact Parse.conditionalExpression_fits fits inLine
  case numericalExpression => exact Parse.numericalExpression_fits fits inLine

/-! ### Dispatch at every level -/

theorem ExprMatch.Fits.relabel {source : String} {m : ExprMatch} (fits : m.Fits source)
    (name : String) : ExprMatch.Fits source { m with parser := name } :=
  ⟨fits.value, fits.next⟩

theorem StmtMatch.Fits.relabel {source : String} {m : StmtMatch} (fits : m.Fits source)
    (name : String) : StmtMatch.Fits source { m with parser := name } :=
  ⟨fits.value, fits.declares, fits.next⟩

/-- The first match of rules that each read what fits, relabelled in a way that
keeps fitting, fits. -/
theorem firstMatch_fits {ρ α : Type} {run : ρ → Attempt α} {label : α → String → α}
    {fits : α → Prop} (relabel : ∀ m name, fits m → fits (label m name)) :
    ∀ (rules : List (String × ρ)), (∀ rule ∈ rules, Attempt.Fits fits (run rule.2)) →
      Attempt.Fits fits (firstMatch run label rules)
  | [], _ => by simp [firstMatch, Attempt.Fits]
  | (name, rule) :: rest, rulesFit => by
    have first := rulesFit (name, rule) List.mem_cons_self
    unfold firstMatch
    split
    · rename_i e failed
      exact first.of_error failed
    · rename_i m found
      simpa [Attempt.Fits] using relabel m name (first.of_ok found m rfl)
    · exact firstMatch_fits relabel rest fun rule member => rulesFit rule (List.mem_cons_of_mem _ member)

namespace Dispatch

variable {source : String}

theorem exhausted_fits : exhausted.Fits source where
  expression _ _ := by simp [exhausted, Attempt.Fits]
  operand _ _ _ := by simp [exhausted, Attempt.Fits]
  statement _ _ := by simp [exhausted, Attempt.Fits]

theorem step_fits {order : Order} {bindings : Bindings} (bindingsOneLine : bindings.OneLine)
    {sub : Dispatch} (fits : sub.Fits source) : (step order bindings sub).Fits source where
  expression _ inLine := firstMatch_fits (fun _ name matchFits => matchFits.relabel name) _
    fun rule _ => rule.2.run_fits bindingsOneLine fits inLine
  operand _ _ inLine := firstMatch_fits (fun _ name matchFits => matchFits.relabel name) _
    fun rule _ => rule.2.run_fits bindingsOneLine fits inLine
  statement _ inLine := firstMatch_fits (fun _ name matchFits => matchFits.relabel name) _
    fun rule _ => rule.2.run_fits fits inLine

/-- At every nesting level, under bindings of one line, every entry point fails
with a message of one line, declines, or reads what fits its line. -/
theorem withLevels_fits (order : Order) {bindings : Bindings} (bindingsOneLine : bindings.OneLine)
    (levels : Nat) : (withLevels order bindings levels).Fits source :=
  withLevels_invariant order bindings (Fits source) exhausted_fits
    (fun _ => step_fits bindingsOneLine) levels

end Dispatch

/-! ### Lines and documents -/

variable {source : String}

/-- A line read at the start of a line of `source`, under bindings of one line,
renders as one line, and what it declares is one line. -/
theorem readLine_fits (order : Order) {bindings : Bindings} (bindingsOneLine : bindings.OneLine)
    {c : Cursor} (inLine : c.InLine (TokenStream.ofSource source)) :
    OneLine (readLine order bindings c).1.1.display ∧
      ∀ d ∈ (readLine order bindings c).2, d.2.OneLine := by
  have statement := (Dispatch.withLevels_fits order bindingsOneLine maxNestingDepth).statement c
    inLine
  unfold readLine Order.dispatch
  split
  · simp +decide
  · split
    · rename_i e failed
      exact ⟨statement.of_error failed, by simp⟩
    · simp [LineResult.display]
    · rename_i found parsed
      have foundFits := statement.of_ok parsed found rfl
      split
      · -- the message quotes the first extra token, which lies in the line
        exact ⟨by simpa [LineResult.display] using foundFits.next.text_oneLine, foundFits.declares⟩
      · refine ⟨?_, foundFits.declares⟩
        dsimp only
        split
        · rename_i v valued
          exact foundFits.value v valued
        · simp +decide

/-- The variables in effect at every line of a document are written on one line. -/
theorem visibleBindings_oneLine (order : Order) (source : String) :
    ∀ index, (visibleBindings order (TokenStream.ofSource source) index).OneLine
  | 0 => Bindings.oneLine_empty
  | index + 1 => by
    have earlier := visibleBindings_oneLine order source index
    rw [visibleBindings]
    split
    · rename_i c atLine
      have inLine := TokenStream.line?_inLine (TokenStream.ofSource_lines_ordered source) atLine
      exact earlier.apply (readLine_fits order earlier inLine).2
    · exact earlier

/-- Every line of a document renders as one line. -/
theorem lineOutcomes_oneLine (order : Order) (source : String) :
    ∀ outcome ∈ (List.range (TokenStream.ofSource source).lineCount).filterMap
      (lineOutcome order (TokenStream.ofSource source)), OneLine outcome.result.display := by
  intro outcome member
  obtain ⟨index, -, found⟩ := List.mem_filterMap.mp member
  unfold lineOutcome at found
  obtain ⟨c, atLine, rfl⟩ := Option.map_eq_some_iff.mp found
  have inLine := TokenStream.line?_inLine (TokenStream.ofSource_lines_ordered source) atLine
  exact (readLine_fits order (visibleBindings_oneLine order source index) inLine).1

/-- Cutting a rendered result at its line feeds gives back the text of each
outcome, when there is an outcome and none holds a line feed. -/
theorem DocumentResult.split_render {d : DocumentResult} (nonempty : d.lines ≠ [])
    (oneLine : ∀ outcome ∈ d.lines, OneLine outcome.result.display) :
    (d.render.split '\n').toList.map (·.copy) = d.lines.map (·.result.display) := by
  have texts : ∀ s ∈ d.lines.map (·.result.display), '\n' ∉ s.toList := by
    intro s member
    obtain ⟨outcome, inLines, rfl⟩ := List.mem_map.mp member
    exact oneLine outcome inLines
  unfold DocumentResult.render
  rw [show "\n" = String.singleton '\n' by decide, String.toList_split_intercalate texts,
    if_neg (by simpa using nonempty)]

/-- Rendering keeps one line of text per document line. A pass that is not
cancelled has one outcome for each line of the scanned text, numbered from one;
no outcome's text holds a line feed, neither a value, nor an error message, nor
an empty line; so cutting the rendered result at its line feeds gives back the
text of each line's outcome, in order. -/
theorem render_has_one_line_per_document_line (r : Registry) (text culture : String) :
    ∃ d, r.interpret text culture false = .ok d ∧
      d.lines.map (·.line) = List.range' 1 (TokenStream.ofSource text).lineCount ∧
      (∀ outcome ∈ d.lines, OneLine outcome.result.display) ∧
      (d.render.split '\n').toList.map (·.copy) = d.lines.map (·.result.display) := by
  have numbered := lineOutcomes_numbered (r.order culture) (TokenStream.ofSource text)
  have oneLine := lineOutcomes_oneLine (r.order culture) text
  refine ⟨_, interpret_eq r text culture, numbered, oneLine, DocumentResult.split_render ?_ oneLine⟩
  -- a text has one line more than line feeds, so at least one outcome
  intro empty
  dsimp only at empty
  have counted := congrArg List.length numbered
  rw [empty, TokenStream.lineCount_ofSource, TokenStream.length_splitOn_lineFeed] at counted
  simp at counted

end Reckon
