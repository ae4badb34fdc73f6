import Reckon.Proofs.Statements
import Reckon.Proofs.CursorViews
import Reckon.Registry

/-!
Contract: every match records the tokens it was read from.

A match read at a cursor `c` ends strictly after `c`, inside `c`'s view and on
its line, and its tree spans exactly the tokens from `c` to the one before
where it ends (`ExprMatch.SpannedFrom`, `StmtMatch.SpannedFrom`). Inside the
tree the spans nest as the text does (`Expr.WellSpanned`, `Stmt.WellSpanned`):
the operands of a binary operation start and end it and the left one ends
before the right one starts; a group's expression and a call's arguments lie
strictly inside it, the arguments one after another; the parts of a statement
lie inside it, the test of a condition before its branch. Hence no span in a
tree is empty (`Expr.WellSpanned.spans_ordered`).

Each parser keeps this when nested dispatch does (one lemma per parser), an
operator chain keeps it along the recursion of `climb` and `tighten`
(`Parse.climb_tighten_spansFrom`), and so dispatch has it at every nesting
level (`Dispatch.withLevels_spanned`).

Owns: the two nesting predicates, `Dispatch.Spanned` and the facts above.
Does not own: what each parser returns (`Reckon.Proofs.Statements`) and
progress of expressions (`Reckon.Proofs.Dispatch`), which it cites.
-/

namespace Reckon

/-! ### Nested spans -/

/-- The spans inside an expression nest as the tokens they were read from. -/
inductive Expr.WellSpanned : Expr → Prop where
  /-- The operands start and end the operation, the left one before the right one. -/
  | binary {op : BinaryOperator} {left right : Expr} {span : Span} :
      left.WellSpanned → right.WellSpanned → left.span.first = span.first →
      right.span.last = span.last → left.span.last < right.span.first →
      (Expr.binary op left right span).WellSpanned
  /-- The expression lies strictly inside the parentheses. -/
  | group {inner : Expr} {span : Span} :
      inner.WellSpanned → span.first < inner.span.first → inner.span.last < span.last →
      (Expr.group inner span).WellSpanned
  | literal {value : Value} {span : Span} :
      span.first ≤ span.last → (Expr.literal value span).WellSpanned
  | reference {name : String} {span : Span} :
      span.first ≤ span.last → (Expr.reference name span).WellSpanned
  /-- The arguments lie strictly inside the call, each ending before the next starts. -/
  | call {name : String} {arguments : List Expr} {span : Span} :
      (∀ argument ∈ arguments, argument.WellSpanned) →
      (∀ argument ∈ arguments, span.first < argument.span.first ∧ argument.span.last < span.last) →
      arguments.Pairwise (fun a b => a.span.last < b.span.first) → span.first ≤ span.last →
      (Expr.call name arguments span).WellSpanned

mutual

/-- Every span recorded in an expression tree, the root's first. -/
def Expr.spans : Expr → List Span
  | .binary _ left right span => span :: (left.spans ++ right.spans)
  | .group inner span => span :: inner.spans
  | .literal _ span => [span]
  | .reference _ span => [span]
  | .call _ arguments span => span :: Expr.spansOfAll arguments

/-- Every span recorded in a list of expression trees. -/
def Expr.spansOfAll : List Expr → List Span
  | [] => []
  | e :: rest => e.spans ++ Expr.spansOfAll rest

end

/-- The spans inside a statement nest as the tokens they were read from. -/
inductive Stmt.WellSpanned : Stmt → Prop where
  /-- The test and the branch taken lie inside the condition, the test first. -/
  | condition {test : Expr} {taken : Option Stmt} {span : Span} :
      test.WellSpanned → span.first ≤ test.span.first → test.span.last ≤ span.last →
      (∀ branch, taken = some branch → branch.WellSpanned) →
      (∀ branch, taken = some branch →
        test.span.last < branch.span.first ∧ branch.span.last ≤ span.last) →
      (Stmt.condition test taken span).WellSpanned
  | declaration {name : String} {value : Expr} {span : Span} :
      value.WellSpanned → span.first ≤ value.span.first → value.span.last ≤ span.last →
      (Stmt.declaration name value span).WellSpanned
  | calculation {expression : Expr} {span : Span} :
      expression.WellSpanned → span.first ≤ expression.span.first →
      expression.span.last ≤ span.last → (Stmt.calculation expression span).WellSpanned
  | comment {span : Span} : span.first ≤ span.last → (Stmt.comment span).WellSpanned
  | header {title : String} {span : Span} :
      span.first ≤ span.last → (Stmt.header title span).WellSpanned

/-- Every span recorded in a statement tree, the root's first. -/
def Stmt.spans : Stmt → List Span
  | .condition test none span => span :: test.spans
  | .condition test (some branch) span => span :: (test.spans ++ branch.spans)
  | .declaration _ value span => span :: value.spans
  | .calculation expression span => span :: expression.spans
  | .comment span => [span]
  | .header _ span => [span]

namespace Expr

theorem mem_spansOfAll {s : Span} {arguments : List Expr} :
    s ∈ spansOfAll arguments ↔ ∃ argument ∈ arguments, s ∈ argument.spans := by
  induction arguments with
  | nil => simp [spansOfAll]
  | cons argument rest inductionHypothesis => simp [spansOfAll, inductionHypothesis]

theorem span_mem_spans (e : Expr) : e.span ∈ e.spans := by
  cases e <;> exact List.mem_cons_self

/-- No span recorded in a tree with nested spans is empty. -/
theorem WellSpanned.spans_ordered {e : Expr} (wellSpanned : e.WellSpanned) :
    ∀ s ∈ e.spans, s.first ≤ s.last := by
  induction wellSpanned with
  | @binary _ left right span _ _ first last apart leftOrdered rightOrdered =>
    have := leftOrdered _ left.span_mem_spans
    have := rightOrdered _ right.span_mem_spans
    intro s member
    simp only [spans, List.mem_cons, List.mem_append] at member
    rcases member with rfl | inLeft | inRight
    · omega
    · exact leftOrdered s inLeft
    · exact rightOrdered s inRight
  | @group inner span _ after before innerOrdered =>
    have := innerOrdered _ inner.span_mem_spans
    intro s member
    simp only [spans, List.mem_cons] at member
    rcases member with rfl | inInner
    · omega
    · exact innerOrdered s inInner
  | literal ordered | reference ordered =>
    intro s member
    simp only [spans, List.mem_singleton] at member
    subst member
    exact ordered
  | call _ _ _ ordered argumentsOrdered =>
    intro s member
    simp only [spans, List.mem_cons] at member
    rcases member with rfl | inArguments
    · exact ordered
    · obtain ⟨argument, isArgument, inArgument⟩ := mem_spansOfAll.mp inArguments
      exact argumentsOrdered argument isArgument s inArgument

theorem WellSpanned.first_le_last {e : Expr} (wellSpanned : e.WellSpanned) :
    e.span.first ≤ e.span.last :=
  wellSpanned.spans_ordered _ e.span_mem_spans

end Expr

namespace Stmt

theorem span_mem_spans (s : Stmt) : s.span ∈ s.spans := by
  cases s with
  | condition test taken span => cases taken <;> exact List.mem_cons_self
  | _ => exact List.mem_cons_self

/-- No span recorded in a statement tree with nested spans is empty. -/
theorem WellSpanned.spans_ordered {s : Stmt} (wellSpanned : s.WellSpanned) :
    ∀ t ∈ s.spans, t.first ≤ t.last := by
  induction wellSpanned with
  | @condition test taken span testSpanned first last _ _ branchOrdered =>
    have := testSpanned.first_le_last
    intro t member
    cases taken with
    | none =>
      simp only [spans, List.mem_cons] at member
      rcases member with rfl | inTest
      · omega
      · exact testSpanned.spans_ordered t inTest
    | some branch =>
      simp only [spans, List.mem_cons, List.mem_append] at member
      rcases member with rfl | inTest | inBranch
      · omega
      · exact testSpanned.spans_ordered t inTest
      · exact branchOrdered branch rfl t inBranch
  | declaration valueSpanned first last | calculation valueSpanned first last =>
    have := valueSpanned.first_le_last
    intro t member
    simp only [spans, List.mem_cons] at member
    rcases member with rfl | inValue
    · omega
    · exact valueSpanned.spans_ordered t inValue
  | comment ordered | header ordered =>
    intro t member
    simp only [spans, List.mem_singleton] at member
    subst member
    exact ordered

theorem WellSpanned.first_le_last {s : Stmt} (wellSpanned : s.WellSpanned) :
    s.span.first ≤ s.span.last :=
  wellSpanned.spans_ordered _ s.span_mem_spans

end Stmt

/-! ### Cursor steps -/

namespace Cursor

variable {c next found : Cursor} {kind : TokenKind}

/-- The tokens from a cursor up to a later position. -/
theorem spanTo_of_advances (moved : c.Advances next) :
    c.spanTo next = ⟨c.index, next.index - 1⟩ := by
  have := moved.index_lt
  simp only [spanTo, Span.mk.injEq, true_and]
  omega

theorem spanTo_first_le_last (c next : Cursor) : (c.spanTo next).first ≤ (c.spanTo next).last := by
  simp only [spanTo]
  omega

theorem advances_endOfView (inside : c.index < c.stop) : c.Advances c.endOfView :=
  ⟨inside, Nat.le_refl _, rfl, rfl⟩

theorem Advances.endOfView (moved : c.Advances next) : c.Advances next.endOfView where
  index_lt := by
    have := moved.index_lt
    have := moved.le_stop
    have := moved.stop_eq
    simp only [Cursor.endOfView]
    omega
  le_stop := by
    have := moved.stop_eq
    simp only [Cursor.endOfView]
    omega
  stop_eq := moved.stop_eq
  line_eq := moved.line_eq

/-- Stepping over an expected token, after words or not, moves forward in the view. -/
theorem skip?_advances {overWords : Bool} (skipped : c.skip? kind overWords = some next) :
    c.Advances next := by
  unfold skip? at skipped
  dsimp only at skipped
  -- the token stepped over is at `c` or after the words at `c`, in the view
  have reached : ∀ here, here.index < here.stop →
      (if (overWords && kind != .word) = true then c.skipWords else c) = here → c.Reaches here := by
    intro here inside isHere
    by_cases words : (overWords && kind != .word) = true
    · rw [if_pos words] at isHere
      subst isHere
      by_cases bounded : c.index ≤ c.stop
      · obtain ⟨j, moved, lo, hi⟩ := skipWords_eq bounded
        rw [moved]
        exact ⟨lo, hi, rfl, rfl⟩
      · rw [Cursor.skipWords.eq_1, dif_neg (by omega)] at inside
        omega
    · rw [if_neg words] at isHere
      subst isHere
      exact Reaches.refl (by omega)
  generalize isHere : (if (overWords && kind != .word) = true then c.skipWords else c) = here at skipped
  split at skipped
  · rename_i onKind
    cases skipped
    have inside := index_lt_stop_of_isAt onKind
    exact (reached here inside isHere).trans_advances (advances_advance inside)
  · cases skipped

theorem seek?_reaches (sought : c.seek? kind = some found) :
    c.Reaches found ∧ found.index < found.stop := by
  obtain ⟨shape, lo, hi, -, -⟩ := seek?_eq_some sought
  rw [shape]
  exact ⟨⟨lo, Nat.le_of_lt hi, rfl, rfl⟩, hi⟩

theorem until_stop_le (c : Cursor) (kind : TokenKind) : (c.until kind).stop ≤ c.stop := by
  obtain ⟨-, -, -, -, ⟨j, -, below, -, -, stopped⟩ | ⟨-, stopped⟩⟩ := until_spec c kind <;> omega

/-- A position reached in a view cut short, carried back into the full view, lies
forward there, at the same index or later. -/
theorem Advances.resume (moved : (c.until kind).Advances next) :
    c.Advances (c.resume next) ∧ next.index ≤ (c.resume next).index := by
  obtain ⟨sameIndex, -, -, -, -⟩ := until_spec c kind
  have cut := until_stop_le c kind
  have := moved.index_lt
  have := moved.le_stop
  refine ⟨⟨?_, ?_, rfl, rfl⟩, ?_⟩ <;> simp only [Cursor.resume] <;> omega

end Cursor

/-! ### Matches and their spans -/

/-- The tree of an expression match spans the tokens from position `first` to the
one before where the match ends, at least one, and the spans inside it nest. -/
structure ExprMatch.SpansFrom (m : ExprMatch) (first : Nat) : Prop where
  lt_next : first < m.next.index
  span_eq : m.node.span = ⟨first, m.next.index - 1⟩
  wellSpanned : m.node.WellSpanned

/-- An expression match read at `c`: it ends strictly after `c`, inside `c`'s view
and on its line, and its tree spans the tokens from `c` on. -/
structure ExprMatch.SpannedFrom (m : ExprMatch) (c : Cursor) : Prop where
  advances : c.Advances m.next
  spans : m.SpansFrom c.index

/-- The tree of a statement match spans the tokens from position `first` to the
one before where the match ends, at least one, and the spans inside it nest. -/
structure StmtMatch.SpansFrom (m : StmtMatch) (first : Nat) : Prop where
  lt_next : first < m.next.index
  span_eq : m.node.span = ⟨first, m.next.index - 1⟩
  wellSpanned : m.node.WellSpanned

/-- A statement match read at `c`: it ends strictly after `c`, inside `c`'s view
and on its line, and its tree spans the tokens from `c` on. -/
structure StmtMatch.SpannedFrom (m : StmtMatch) (c : Cursor) : Prop where
  advances : c.Advances m.next
  spans : m.SpansFrom c.index

/-- Every match of `d` is spanned from the cursor it was read at. -/
structure Dispatch.Spanned (d : Dispatch) : Prop where
  expression : ∀ c m, d.expression c = .ok (some m) → m.SpannedFrom c
  operand : ∀ after c m, d.operand after c = .ok (some m) → m.SpannedFrom c
  statement : ∀ c m, d.statement c = .ok (some m) → m.SpannedFrom c

section Spanned

variable {c : Cursor}

theorem ExprMatch.SpannedFrom.of_spanTo {m : ExprMatch} (advances : c.Advances m.next)
    (span : m.node.span = c.spanTo m.next) (wellSpanned : m.node.WellSpanned) : m.SpannedFrom c :=
  ⟨advances, advances.index_lt, span.trans (Cursor.spanTo_of_advances advances), wellSpanned⟩

theorem StmtMatch.SpannedFrom.of_spanTo {m : StmtMatch} (advances : c.Advances m.next)
    (span : m.node.span = c.spanTo m.next) (wellSpanned : m.node.WellSpanned) : m.SpannedFrom c :=
  ⟨advances, advances.index_lt, span.trans (Cursor.spanTo_of_advances advances), wellSpanned⟩

/-- The name a match is labelled with plays no part in its span. -/
theorem ExprMatch.SpannedFrom.relabel {m : ExprMatch} (spanned : m.SpannedFrom c) (name : String) :
    ({ m with parser := name } : ExprMatch).SpannedFrom c :=
  ⟨spanned.advances, spanned.spans.lt_next, spanned.spans.span_eq, spanned.spans.wellSpanned⟩

theorem StmtMatch.SpannedFrom.relabel {m : StmtMatch} (spanned : m.SpannedFrom c) (name : String) :
    ({ m with parser := name } : StmtMatch).SpannedFrom c :=
  ⟨spanned.advances, spanned.spans.lt_next, spanned.spans.span_eq, spanned.spans.wellSpanned⟩

theorem Dispatch.Spanned.progressive {d : Dispatch} (spanned : d.Spanned) : d.Progressive where
  expression c m found := (spanned.expression c m found).advances
  operand after c m found := (spanned.operand after c m found).advances

end Spanned

namespace Dispatch

variable {d : Dispatch} {c : Cursor} {stop : TokenKind}

/-- An expression read in a view cut short and carried back starts at the cursor,
ends before the cut and before where the match now ends, and has nested spans. -/
theorem expressionUntil_spanned (spanned : d.Spanned) {m : ExprMatch}
    (found : d.expressionUntil c stop = .ok (some m)) :
    c.Advances m.next ∧ m.node.WellSpanned ∧ m.node.span.first = c.index ∧
      m.node.span.last < (c.until stop).stop ∧ m.node.span.last < m.next.index := by
  obtain ⟨inner, parsed, rfl⟩ := expressionUntil_eq_some found
  obtain ⟨moved, lt_next, span_eq, wellSpanned⟩ := spanned.expression _ _ parsed
  obtain ⟨carried, later⟩ := Cursor.Advances.resume moved
  obtain ⟨sameIndex, -, -, -, -⟩ := Cursor.until_spec c stop
  have := moved.le_stop
  refine ⟨carried, wellSpanned, ?_, ?_, ?_⟩ <;> dsimp only <;> rw [span_eq] <;> dsimp only <;> omega

/-- A statement read in a view cut short and carried back starts at the cursor,
ends before the cut and before where the match now ends, and has nested spans. -/
theorem statementUntil_spanned (spanned : d.Spanned) {m : StmtMatch}
    (found : d.statementUntil c stop = .ok (some m)) :
    c.Advances m.next ∧ m.node.WellSpanned ∧ m.node.span.first = c.index ∧
      m.node.span.last < (c.until stop).stop ∧ m.node.span.last < m.next.index := by
  obtain ⟨inner, parsed, rfl⟩ := statementUntil_eq_some found
  obtain ⟨moved, lt_next, span_eq, wellSpanned⟩ := spanned.statement _ _ parsed
  obtain ⟨carried, later⟩ := Cursor.Advances.resume moved
  obtain ⟨sameIndex, -, -, -, -⟩ := Cursor.until_spec c stop
  have := moved.le_stop
  refine ⟨carried, wellSpanned, ?_, ?_, ?_⟩ <;> dsimp only <;> rw [span_eq] <;> dsimp only <;> omega

end Dispatch

/-! ### Operands -/

namespace Parse

open Cursor

variable {sub : Dispatch} {bindings : Bindings} {c : Cursor} {m : ExprMatch}

theorem group_spanned (spanned : sub.Spanned) (found : group sub c = .ok (some m)) :
    m.SpannedFrom c := by
  obtain ⟨inner, parsed, inside, closeInside, atEnd, node, -⟩ := group_eq_some found
  obtain ⟨-, lt_next, span_eq, wellSpanned⟩ := spanned.expression _ _ parsed
  have advances := group_advances spanned.progressive found
  have opened := advance_index_of_lt inside
  have closed := advance_index_of_lt closeInside
  refine .of_spanTo advances (by rw [node]; rfl) ?_
  rw [node, spanTo_of_advances advances, atEnd]
  -- the parentheses are the tokens before and after the expression
  refine .group wellSpanned ?_ ?_ <;> rw [span_eq] <;> dsimp only <;> omega

/-- The trees of a list of matches lie in the tokens from position `first` to
before position `stop`, have nested spans, and each ends before the next starts. -/
structure ItemsWithin (first stop : Nat) (items : List ExprMatch) : Prop where
  within : ∀ x ∈ items, first ≤ x.node.span.first ∧ x.node.span.last < stop
  wellSpanned : ∀ x ∈ items, x.node.WellSpanned
  ordered : items.Pairwise fun a b => a.node.span.last < b.node.span.first

namespace ItemsWithin

variable {first stop : Nat} {items : List ExprMatch}

theorem nil : ItemsWithin first stop [] :=
  ⟨fun _ member => (by cases member), fun _ member => (by cases member), List.Pairwise.nil⟩

theorem mono (before : ItemsWithin first stop items) {stop' : Nat} (le : stop ≤ stop') :
    ItemsWithin first stop' items :=
  ⟨fun x member => ⟨(before.within x member).1, by have := (before.within x member).2; omega⟩,
    before.wellSpanned, before.ordered⟩

/-- An item read where the earlier ones ended joins them, ending before the
position where it ends. -/
theorem append (before : ItemsWithin first stop items) {item : ExprMatch}
    (started : first ≤ stop) (itemSpans : item.SpansFrom stop) :
    ItemsWithin first item.next.index (items ++ [item]) := by
  have := itemSpans.lt_next
  have itemSpan := itemSpans.span_eq
  refine ⟨fun x member => ?_, fun x member => ?_, ?_⟩
  · rcases List.mem_append.mp member with earlier | isItem
    · have := before.within x earlier
      omega
    · rw [List.mem_singleton.mp isItem, itemSpan]
      dsimp only
      omega
  · rcases List.mem_append.mp member with earlier | isItem
    · exact before.wellSpanned x earlier
    · rw [List.mem_singleton.mp isItem]
      exact itemSpans.wellSpanned
  · refine List.pairwise_append.mpr ⟨before.ordered, List.pairwise_singleton _ _, ?_⟩
    intro x earlier y isItem
    rw [List.mem_singleton.mp isItem, itemSpan]
    exact (before.within x earlier).2

end ItemsWithin

/-- The arguments of a call lie after `(`, before the token after the list, and
follow one another. -/
theorem argumentItems_within (spanned : sub.Spanned) {listStart : Cursor} {bound : Nat}
    {current : Cursor} {read items : List ExprMatch} {next : Cursor}
    (found : argumentItems sub listStart bound current read = .ok (items, next))
    (started : listStart.index ≤ current.index)
    (before : ItemsWithin listStart.index current.index read) :
    ItemsWithin listStart.index (next.index - 1) items := by
  fun_induction argumentItems sub listStart bound current read with
  | case1 | case2 | case4 | case6 | case8 => cases found
  | case3 current read item parsed onSeparator _ inductionHypothesis
  | case5 current read item parsed onSeparator _ inductionHypothesis =>
    -- the item ends at the separator, and the next one starts after it
    have itemSpanned := spanned.expression _ _ parsed
    have separated := advance_index_of_lt (index_lt_stop_of_kind onSeparator)
    have := itemSpanned.spans.lt_next
    exact inductionHypothesis found (by omega)
      ((before.append started itemSpanned.spans).mono (by omega))
  | case7 current read item parsed onClose =>
    cases found
    have itemSpanned := spanned.expression _ _ parsed
    have closed := advance_index_of_lt (index_lt_stop_of_kind onClose)
    exact (before.append started itemSpanned.spans).mono (by omega)

theorem arguments_within (spanned : sub.Spanned) {listStart : Cursor} {items : List ExprMatch}
    {next : Cursor} (found : arguments sub listStart = .ok (items, next)) :
    ItemsWithin listStart.index (next.index - 1) items := by
  unfold arguments at found
  split at found
  · cases found
    exact ItemsWithin.nil
  · exact argumentItems_within spanned found (Nat.le_refl _) ItemsWithin.nil

theorem call_spanned (spanned : sub.Spanned) (found : call sub c = .ok (some m)) :
    m.SpannedFrom c := by
  obtain ⟨items, inside, openInside, listRead, -, node⟩ := call_eq_some found
  have advances := call_advances spanned.progressive found
  have within := arguments_within spanned listRead
  have named := advance_index_of_lt inside
  have opened := advance_index_of_lt openInside
  have := advances.index_lt
  refine .of_spanTo advances (by rw [node]; rfl) ?_
  rw [node, spanTo_of_advances advances]
  -- the name and `(` come before the arguments
  refine .call (fun argument member => ?_) (fun argument member => ?_)
    (List.pairwise_map.mpr within.ordered) (by dsimp only; omega)
  · obtain ⟨x, isItem, rfl⟩ := List.mem_map.mp member
    exact within.wellSpanned x isItem
  · obtain ⟨x, isItem, rfl⟩ := List.mem_map.mp member
    have := within.within x isItem
    dsimp only
    omega

/-! ### Operator chains -/

variable {operand : Cursor → Attempt ExprMatch} {bound : Nat}

/-- Joining a chain that spans from `first` with the operand read after its
operator gives an operation that spans from `first`, the operator between its
two sides. -/
theorem combine_spansFrom {left right joined : ExprMatch} {op : BinaryOperator} {first line : Nat}
    (leftSpans : left.SpansFrom first) (onOperator : operatorAt? left.next = some op)
    (rightSpans : right.SpansFrom left.next.advance.index)
    (joinedOk : combine left op right line = .ok joined) : joined.SpansFrom first := by
  obtain ⟨-, nextEq, node⟩ := combine_eq_ok joinedOk
  have afterOperator := advance_index_of_lt (operatorAt?_inside onOperator)
  have leftSpan := leftSpans.span_eq
  have rightSpan := rightSpans.span_eq
  have := leftSpans.lt_next
  have := rightSpans.lt_next
  refine ⟨by rw [nextEq]; omega, ?_, ?_⟩
  · rw [node, nextEq]
    show (⟨left.node.span.first, right.node.span.last⟩ : Span) = _
    rw [leftSpan, rightSpan]
  · rw [node]
    exact .binary leftSpans.wellSpanned rightSpans.wellSpanned rfl rfl
      (by rw [leftSpan, rightSpan]; dsimp only; omega)

/-- Operator chains record their tokens: when every operand is spanned from where
it was read, a result of `climb` or `tighten` spans from where the match it
extends starts. The induction follows the recursion of the two functions; each
branch returns a match already known to span from there, or joins one with the
operand after it. -/
theorem climb_tighten_spansFrom
    (operandSpanned : ∀ p m, operand p = .ok (some m) → m.SpannedFrom p) :
    (∀ minPrecedence left first, left.SpansFrom first →
        ∀ r, climb operand bound minPrecedence left = .ok r → r.SpansFrom first) ∧
    (∀ op right first, right.SpansFrom first →
        ∀ r, tighten operand bound op right = .ok r → r.SpansFrom first) := by
  apply climb.mutual_induct operand bound
  · intro p left noOperator first leftSpans r found
    rw [climb] at found
    simp only [noOperator] at found
    cases found
    exact leftSpans
  · intro p left op onOperator binds e failed first leftSpans r found
    rw [climb] at found
    simp only [onOperator, binds, failed, if_true] at found
    cases found
  · intro p left op onOperator binds declined first leftSpans r found
    rw [climb] at found
    simp only [onOperator, binds, declined, if_true] at found
    cases found
    exact leftSpans
  · intro p left op onOperator binds right read progress e failed _ first leftSpans r found
    rw [climb] at found
    simp only [onOperator, binds, read, progress, failed, if_true] at found
    cases found
  · intro p left op onOperator binds right read progress tightened tightenedOk e failed _
      first leftSpans r found
    rw [climb] at found
    simp only [onOperator, binds, read, progress, tightenedOk, failed, if_true] at found
    cases found
  · intro p left op onOperator binds right read progress tightened tightenedOk joined joinedOk moved
      tightenSpans climbSpans first leftSpans r found
    rw [climb] at found
    simp only [onOperator, binds, read, progress, tightenedOk, joinedOk, moved, if_true] at found
    have rightSpans := tightenSpans _ (operandSpanned _ _ read).spans tightened tightenedOk
    exact climbSpans first (combine_spansFrom leftSpans onOperator rightSpans joinedOk) r found
  · intro p left op onOperator binds right read progress tightened tightenedOk joined joinedOk
      stuck tightenSpans first leftSpans r found
    rw [climb] at found
    simp only [onOperator, binds, read, progress, tightenedOk, joinedOk, stuck, if_true,
      dif_neg, not_false_eq_true] at found
    cases found
    have rightSpans := tightenSpans _ (operandSpanned _ _ read).spans tightened tightenedOk
    exact combine_spansFrom leftSpans onOperator rightSpans joinedOk
  · intro p left op onOperator binds right read noProgress first leftSpans r found
    rw [climb] at found
    simp only [onOperator, binds, read, noProgress, if_true, dif_neg, not_false_eq_true] at found
    cases found
    exact leftSpans
  · intro p left op onOperator loose first leftSpans r found
    rw [climb] at found
    simp only [onOperator, loose, if_false] at found
    cases found
    exact leftSpans
  · intro op right noOperator first rightSpans r found
    rw [tighten] at found
    simp only [noOperator] at found
    cases found
    exact rightSpans
  · intro op right following onOperator tighter e failed _ first rightSpans r found
    rw [tighten] at found
    simp only [onOperator, tighter, failed, if_true] at found
    cases found
  · intro op right following onOperator tighter extended extendedOk moved climbSpans tightenSpans
      first rightSpans r found
    rw [tighten] at found
    simp only [onOperator, tighter, extendedOk, moved, if_true] at found
    exact tightenSpans first (climbSpans first rightSpans extended extendedOk) r found
  · intro op right following onOperator tighter extended extendedOk stuck _ first rightSpans r found
    rw [tighten] at found
    simp only [onOperator, tighter, extendedOk, stuck, if_true, dif_neg, not_false_eq_true] at found
    cases found
    exact rightSpans
  · intro op right following onOperator notTighter first rightSpans r found
    rw [tighten] at found
    simp only [onOperator, notTighter, if_false] at found
    cases found
    exact rightSpans

theorem binaryOperation_spanned
    (operandSpanned : ∀ p m, operand p = .ok (some m) → m.SpannedFrom p)
    (found : binaryOperation operand c = .ok (some m)) : m.SpannedFrom c := by
  obtain ⟨first, read, climbed⟩ := binaryOperation_eq_some found
  exact ⟨binaryOperation_advances (fun p m read => (operandSpanned p m read).advances) found,
    (climb_tighten_spansFrom operandSpanned).1 1 first c.index (operandSpanned _ _ read).spans m
      climbed⟩

end Parse

open Cursor in
theorem ExprRule.run_spanned (rule : ExprRule) {bindings : Bindings} {sub : Dispatch}
    (spanned : sub.Spanned) {c : Cursor} {m : ExprMatch}
    (found : rule.run bindings sub c = .ok (some m)) : m.SpannedFrom c := by
  have advances := ExprRule.run_advances rule spanned.progressive found
  cases rule with
  | binaryOperation => exact Parse.binaryOperation_spanned (spanned.operand _) found
  | group => exact Parse.group_spanned spanned found
  | function => exact Parse.call_spanned spanned found
  | decimalComma =>
    obtain ⟨leaf, -⟩ := Parse.decimalComma_eq_some found
    exact .of_spanTo advances (by rw [leaf]; rfl) (by rw [leaf]; exact .literal (spanTo_first_le_last _ _))
  | data =>
    obtain ⟨leaf, -⟩ := Parse.data_eq_some found
    exact .of_spanTo advances (by rw [leaf]; rfl) (by rw [leaf]; exact .literal (spanTo_first_le_last _ _))
  | variableReference =>
    obtain ⟨-, leaf, -⟩ := Parse.reference_eq_some found
    exact .of_spanTo advances (by rw [leaf]; rfl)
      (by rw [leaf]; exact .reference (spanTo_first_le_last _ _))

/-! ### Statements -/

namespace Parse

open Cursor

variable {sub : Dispatch} {c : Cursor} {m : StmtMatch}

theorem comment_spanned (found : comment c = .ok (some m)) : m.SpannedFrom c := by
  obtain ⟨onComment, rfl⟩ := comment_eq_some found
  exact .of_spanTo (advances_advance (index_lt_stop_of_isAt onComment)) rfl
    (.comment (spanTo_first_le_last _ _))

theorem header_spanned (found : header c = .ok (some m)) : m.SpannedFrom c := by
  obtain ⟨titleStart, skipped, rfl⟩ := header_eq_some found
  -- the title runs to the end of the view
  exact .of_spanTo (advances_endOfView (skip?_eq_some skipped).1) rfl
    (.header (spanTo_first_le_last _ _))

theorem declaration_spanned (spanned : sub.Spanned) (found : declaration sub c = .ok (some m)) :
    m.SpannedFrom c := by
  obtain ⟨valueStart, value, onWord, equals, parsed, rfl⟩ := declaration_eq_some found
  obtain ⟨toEnd, lt_next, span_eq, wellSpanned⟩ := spanned.expression _ _ parsed
  have toValue := (advances_advance (index_lt_stop_of_isAt onWord)).trans (skip?_advances equals)
  have advances := toValue.trans toEnd
  have := toValue.index_lt
  refine .of_spanTo advances rfl ?_
  show (Stmt.declaration c.text value.node (c.spanTo value.next)).WellSpanned
  rw [spanTo_of_advances advances]
  have first : value.node.span.first = valueStart.index := by rw [span_eq]
  have last : value.node.span.last = value.next.index - 1 := by rw [span_eq]
  refine .declaration wellSpanned ?_ ?_
  · show c.index ≤ value.node.span.first
    omega
  · show value.node.span.last ≤ value.next.index - 1
    omega

/-- A calculation spans just its expression. -/
theorem calculation_wellSpanned {value : ExprMatch} (valueSpanned : value.SpannedFrom c) :
    (Stmt.calculation value.node (c.spanTo value.next)).WellSpanned := by
  rw [spanTo_of_advances valueSpanned.advances, ← valueSpanned.spans.span_eq]
  exact .calculation valueSpanned.spans.wellSpanned (Nat.le_refl _) (Nat.le_refl _)

theorem numericalExpression_spanned (spanned : sub.Spanned)
    (found : numericalExpression sub c = .ok (some m)) : m.SpannedFrom c := by
  obtain ⟨value, parsed, rfl⟩ := numericalExpression_eq_some found
  have valueSpanned := spanned.expression _ _ parsed
  exact .of_spanTo valueSpanned.advances rfl (calculation_wellSpanned valueSpanned)

theorem conditionalExpression_spanned (spanned : sub.Spanned)
    (found : conditionalExpression sub c = .ok (some m)) : m.SpannedFrom c := by
  obtain ⟨value, op, parsed, -, rfl⟩ := conditionalExpression_eq_some found
  have valueSpanned := spanned.expression _ _ parsed
  refine .of_spanTo valueSpanned.advances (by split <;> rfl) ?_
  split
  · -- a relational operation is a condition without a branch, spanning its test
    show (Stmt.condition value.node none (c.spanTo value.next)).WellSpanned
    rw [spanTo_of_advances valueSpanned.advances, ← valueSpanned.spans.span_eq]
    exact .condition valueSpanned.spans.wellSpanned (Nat.le_refl _) (Nat.le_refl _)
      (fun _ none => nomatch none) (fun _ none => nomatch none)
  · exact calculation_wellSpanned valueSpanned

/-- The branch a condition selects starts at or after where it is looked for and
ends before the position after the condition, which lies in the view. -/
theorem selectedBranch_spanned (spanned : sub.Spanned) {branchStart next : Cursor} {taken : Bool}
    {branch : Option StmtMatch} (toBranch : c.Advances branchStart)
    (found : selectedBranch sub c branchStart taken = .ok (branch, next)) :
    branchStart.Reaches next ∧ ∀ chosen, branch = some chosen →
      chosen.node.WellSpanned ∧ branchStart.index ≤ chosen.node.span.first ∧
        chosen.node.span.last < next.index := by
  rcases selectedBranch_eq_ok found with
    ⟨-, chosen, parsed, rfl, rfl⟩ | ⟨-, elseToken, chosen, sought, parsed, rfl, rfl⟩ |
      ⟨-, -, rfl, rfl⟩
  · -- the `then` branch is read up to `else`, and an `else` part after it is passed over
    obtain ⟨toChosen, wellSpanned, chosenFirst, -, chosenLast⟩ :=
      Dispatch.statementUntil_spanned spanned parsed
    have inside := toChosen.inside
    have toEnd : branchStart.Advances
        (if chosen.next.isAt .elseKw then chosen.next.endOfView else chosen.next) := by
      split
      · exact toChosen.endOfView
      · exact toChosen
    have later : chosen.next.index ≤
        (if chosen.next.isAt .elseKw then chosen.next.endOfView else chosen.next).index := by
      split
      · exact inside
      · exact Nat.le_refl _
    refine ⟨toEnd.reaches, fun chosen' isChosen => ?_⟩
    cases isChosen
    exact ⟨wellSpanned, Nat.le_of_eq chosenFirst.symm, by omega⟩
  · -- the `else` branch is read after the `else` token
    obtain ⟨toElse, elseInside⟩ := seek?_reaches sought
    obtain ⟨toChosen, lt_next, span_eq, wellSpanned⟩ := spanned.statement _ _ parsed
    have afterElse := advance_index_of_lt elseInside
    have := toElse.index_le
    refine ⟨(toElse.trans_advances ((advances_advance elseInside).trans toChosen)).reaches,
      fun chosen' isChosen => ?_⟩
    cases isChosen
    refine ⟨wellSpanned, ?_, ?_⟩ <;> rw [span_eq] <;> dsimp only <;> omega
  · -- no branch: the condition ends with the view
    have := toBranch.le_stop
    exact ⟨⟨this, Nat.le_of_eq toBranch.stop_eq.symm, toBranch.stop_eq.symm,
      toBranch.line_eq.symm⟩, fun _ none => nomatch none⟩

theorem condition_spanned (spanned : sub.Spanned) (found : condition sub c = .ok (some m)) :
    m.SpannedFrom c := by
  obtain ⟨conditionStart, thenToken, test, taken, branch, next, skipped, sought, tested, -, -,
    selected, rfl⟩ := condition_eq_some found
  -- `then` lies after `if`, and the branch is looked for after `then`
  have toCondition := skip?_advances skipped
  obtain ⟨toThen, thenInside⟩ := seek?_reaches sought
  have toBranch : c.Advances thenToken.advance :=
    (toCondition.trans_reaches toThen).trans (advances_advance thenInside)
  -- the test is read in the view cut before `then`
  obtain ⟨-, testSpanned, testFirst, testLast, -⟩ := Dispatch.expressionUntil_spanned spanned tested
  have cutStop : (conditionStart.until .thenKw).stop = thenToken.index := by
    simp only [Cursor.until, sought]
  obtain ⟨toNext, branchSpanned⟩ := selectedBranch_spanned spanned toBranch selected
  have advances := toBranch.trans_reaches toNext
  have afterThen := advance_index_of_lt thenInside
  have := toCondition.index_lt
  have := toThen.index_le
  have := toNext.index_le
  refine .of_spanTo advances rfl ?_
  show (Stmt.condition test.node (branch.map StmtMatch.node) (c.spanTo next)).WellSpanned
  rw [spanTo_of_advances advances]
  refine .condition testSpanned (by dsimp only; omega) (by dsimp only; omega)
    (fun node isChosen => ?_) (fun node isChosen => ?_)
  · obtain ⟨chosen, isBranch, rfl⟩ := Option.map_eq_some_iff.mp isChosen
    exact (branchSpanned chosen isBranch).1
  · obtain ⟨chosen, isBranch, rfl⟩ := Option.map_eq_some_iff.mp isChosen
    obtain ⟨-, chosenFirst, chosenLast⟩ := branchSpanned chosen isBranch
    dsimp only
    omega

end Parse

theorem StmtRule.run_spanned (rule : StmtRule) {sub : Dispatch} (spanned : sub.Spanned)
    {c : Cursor} {m : StmtMatch} (found : rule.run sub c = .ok (some m)) : m.SpannedFrom c := by
  cases rule with
  | comment => exact Parse.comment_spanned found
  | header => exact Parse.header_spanned found
  | condition => exact Parse.condition_spanned spanned found
  | declaration => exact Parse.declaration_spanned spanned found
  | conditionalExpression => exact Parse.conditionalExpression_spanned spanned found
  | numericalExpression => exact Parse.numericalExpression_spanned spanned found

/-! ### Dispatch -/

namespace Dispatch

theorem exhausted_spanned : exhausted.Spanned where
  expression _ _ found := by cases found
  operand _ _ _ found := by cases found
  statement _ _ found := by cases found

theorem step_spanned {order : Order} {bindings : Bindings} {sub : Dispatch}
    (spanned : sub.Spanned) : (step order bindings sub).Spanned where
  expression c m found := by
    obtain ⟨name, rule, _, _, ran, rfl⟩ := firstMatch_eq_some found
    exact (ExprRule.run_spanned rule spanned ran).relabel name
  operand after c m found := by
    obtain ⟨name, rule, _, _, ran, rfl⟩ := firstMatch_eq_some found
    exact (ExprRule.run_spanned rule spanned ran).relabel name
  statement c m found := by
    obtain ⟨name, rule, _, _, ran, rfl⟩ := firstMatch_eq_some found
    exact (StmtRule.run_spanned rule spanned ran).relabel name

/-- Every match, at every nesting level, is spanned from where it was read. -/
theorem withLevels_spanned (order : Order) (bindings : Bindings) (levels : Nat) :
    (withLevels order bindings levels).Spanned :=
  withLevels_invariant order bindings Spanned exhausted_spanned
    (fun _ spanned => step_spanned spanned) levels

end Dispatch

/-- Every match that dispatch returns, of an expression or of a statement, ends
strictly after the cursor it was read at and within that cursor's view; its tree
spans exactly the tokens from the cursor to the one before where it ends; the
spans inside the tree nest as the text does; and no span in it is empty. -/
theorem every_match_spans_the_tokens_it_read (r : Registry) (culture : String)
    (bindings : Bindings) :
    (∀ c m, ((r.order culture).dispatch bindings).expression c = .ok (some m) →
      c.index < m.next.index ∧ m.next.index ≤ c.stop ∧ m.node.span = ⟨c.index, m.next.index - 1⟩ ∧
        m.node.WellSpanned ∧ ∀ span ∈ m.node.spans, span.first ≤ span.last) ∧
    (∀ after c m, ((r.order culture).dispatch bindings).operand after c = .ok (some m) →
      c.index < m.next.index ∧ m.next.index ≤ c.stop ∧ m.node.span = ⟨c.index, m.next.index - 1⟩ ∧
        m.node.WellSpanned ∧ ∀ span ∈ m.node.spans, span.first ≤ span.last) ∧
    (∀ c m, ((r.order culture).dispatch bindings).statement c = .ok (some m) →
      c.index < m.next.index ∧ m.next.index ≤ c.stop ∧ m.node.span = ⟨c.index, m.next.index - 1⟩ ∧
        m.node.WellSpanned ∧ ∀ span ∈ m.node.spans, span.first ≤ span.last) := by
  have spanned := Dispatch.withLevels_spanned (r.order culture) bindings maxNestingDepth
  refine ⟨fun c m found => ?_, fun after c m found => ?_, fun c m found => ?_⟩
  · obtain ⟨advances, -, span_eq, wellSpanned⟩ := spanned.expression c m found
    exact ⟨advances.index_lt, advances.le_stop, span_eq, wellSpanned, wellSpanned.spans_ordered⟩
  · obtain ⟨advances, -, span_eq, wellSpanned⟩ := spanned.operand after c m found
    exact ⟨advances.index_lt, advances.le_stop, span_eq, wellSpanned, wellSpanned.spans_ordered⟩
  · obtain ⟨advances, -, span_eq, wellSpanned⟩ := spanned.statement c m found
    exact ⟨advances.index_lt, advances.le_stop, span_eq, wellSpanned, wellSpanned.spans_ordered⟩

end Reckon
