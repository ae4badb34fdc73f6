import Reckon.Parse.Dispatch

/-!
Owns what every later statement about dispatch starts from.

A first match is the match of one registered rule, labelled with the name it
is registered under (`firstMatch_eq_some`). A property that holds of exhausted
dispatch and that one more level of dispatch preserves holds at every nesting
level (`Dispatch.withLevels_invariant`): this is the run lemma every statement
about dispatch is an instance of.

Each operand parser has one lemma that says what a match of it is made of: its
tree, its value and where it ends (`data_eq_some` to `call_eq_some`). Operator
chains have one induction along the recursion of `climb` and `tighten`
(`climb_tighten_satisfies`): what operands have and combining keeps, every
result has, and every error is an error of an operand or of combining. Later proofs cite these and do not unfold the parsers again.

Progress: every expression match ends strictly after the cursor it started
at, inside that cursor's view and on its line (`withLevels_progressive`). The
guards on progress in `climb`, `tighten` and `argumentItems` restate exactly
this, so in dispatch they always hold.

Both outcomes of an attempt, its value and its error, are described together
by `Except.Satisfies`, so that one induction over a parser speaks of both.

Does not own: statement matches, or the spans of the nodes.
-/

namespace Except

variable {ε α β : Type} {onOk : α → Prop} {onError : ε → Prop}

/-- Both outcomes of `x` satisfy their predicate: a value `onOk`, an error
`onError`. -/
def Satisfies (onOk : α → Prop) (onError : ε → Prop) : Except ε α → Prop
  | .ok a => onOk a
  | .error e => onError e

@[simp] theorem satisfies_ok (a : α) : (Except.ok a : Except ε α).Satisfies onOk onError ↔ onOk a :=
  Iff.rfl

@[simp] theorem satisfies_error (e : ε) :
    (Except.error e : Except ε α).Satisfies onOk onError ↔ onError e :=
  Iff.rfl

@[simp] theorem satisfies_pure (a : α) : (pure a : Except ε α).Satisfies onOk onError ↔ onOk a :=
  Iff.rfl

@[simp] theorem satisfies_throw (e : ε) :
    (throw e : Except ε α).Satisfies onOk onError ↔ onError e :=
  Iff.rfl

/-- A sequence satisfies a pair of predicates when its first step does with, for
its value, that the rest does. -/
@[simp] theorem satisfies_bind (x : Except ε α) (f : α → Except ε β) {onOk : β → Prop} :
    (x >>= f).Satisfies onOk onError ↔
      x.Satisfies (fun a => (f a).Satisfies onOk onError) onError := by
  cases x <;> rfl

@[simp] theorem satisfies_map (f : α → β) (x : Except ε α) {onOk : β → Prop} :
    (f <$> x).Satisfies onOk onError ↔ x.Satisfies (fun a => onOk (f a)) onError := by
  cases x <;> rfl

theorem Satisfies.mono {x : Except ε α} {onOk' : α → Prop} {onError' : ε → Prop}
    (holds : x.Satisfies onOk onError) (okMono : ∀ a, onOk a → onOk' a)
    (errorMono : ∀ e, onError e → onError' e) : x.Satisfies onOk' onError' := by
  cases x
  case ok a => exact okMono a holds
  case error e => exact errorMono e holds

theorem Satisfies.of_ok {x : Except ε α} {a : α} (holds : x.Satisfies onOk onError)
    (ok : x = .ok a) : onOk a := by
  subst ok
  exact holds

theorem Satisfies.of_error {x : Except ε α} {e : ε} (holds : x.Satisfies onOk onError)
    (failed : x = .error e) : onError e := by
  subst failed
  exact holds

theorem satisfies_iff {x : Except ε α} :
    x.Satisfies onOk onError ↔ (∀ a, x = .ok a → onOk a) ∧ (∀ e, x = .error e → onError e) := by
  cases x <;> simp [Satisfies]

end Except

namespace Reckon

/-! ### First matches and nesting levels -/

section FirstMatch

variable {ρ α : Type} {label : α → String → α} {name : String} {rest : List (String × ρ)}

theorem firstMatch_cons_error (run : ρ → Attempt α) (rule : ρ) {e : InterpretError}
    (failed : run rule = .error e) : firstMatch run label ((name, rule) :: rest) = .error e := by
  simp only [firstMatch, failed]

theorem firstMatch_cons_found (run : ρ → Attempt α) (rule : ρ) {m : α}
    (found : run rule = .ok (some m)) :
    firstMatch run label ((name, rule) :: rest) = .ok (some (label m name)) := by
  simp only [firstMatch, found]

theorem firstMatch_cons_declined (run : ρ → Attempt α) (rule : ρ)
    (declined : run rule = .ok none) :
    firstMatch run label ((name, rule) :: rest) = firstMatch run label rest := by
  simp only [firstMatch, declined]

end FirstMatch

/-- A first match is the match of one of the rules, under that rule's name. -/
theorem firstMatch_eq_some {ρ α : Type} {run : ρ → Attempt α} {label : α → String → α}
    {rules : List (String × ρ)} {found : α}
    (matched : firstMatch run label rules = .ok (some found)) :
    ∃ name rule m, (name, rule) ∈ rules ∧ run rule = .ok (some m) ∧ found = label m name := by
  induction rules with
  | nil => cases matched
  | cons head rest inductionHypothesis =>
    obtain ⟨name, rule⟩ := head
    simp only [firstMatch] at matched
    split at matched
    · cases matched
    · rename_i m ran
      cases matched
      exact ⟨name, rule, m, List.mem_cons_self, ran, rfl⟩
    · obtain ⟨name', rule', m, member, ran, same⟩ := inductionHypothesis matched
      exact ⟨name', rule', m, List.mem_cons_of_mem _ member, ran, same⟩

namespace Dispatch

/-- What exhausted dispatch satisfies and one level of dispatch preserves holds at
every number of levels. -/
theorem withLevels_invariant (order : Order) (bindings : Bindings) (holds : Dispatch → Prop)
    (base : holds exhausted) (step : ∀ sub, holds sub → holds (step order bindings sub)) :
    ∀ levels, holds (withLevels order bindings levels)
  | 0 => base
  | levels + 1 => step _ (withLevels_invariant order bindings holds base step levels)

variable {d : Dispatch} {c : Cursor} {stop : TokenKind}

/-- A match in a view cut short is a match of the cut view, carried back. -/
theorem expressionUntil_eq_some {m : ExprMatch} (found : d.expressionUntil c stop = .ok (some m)) :
    ∃ inner, d.expression (c.until stop) = .ok (some inner) ∧
      m = { inner with next := c.resume inner.next } := by
  unfold expressionUntil at found
  cases parsed : d.expression (c.until stop) with
  | error e => simp only [parsed] at found; cases found
  | ok result =>
    rcases result with _ | inner
    · simp only [parsed] at found; cases found
    · simp only [parsed] at found
      cases found
      exact ⟨inner, rfl, rfl⟩

theorem statementUntil_eq_some {m : StmtMatch} (found : d.statementUntil c stop = .ok (some m)) :
    ∃ inner, d.statement (c.until stop) = .ok (some inner) ∧
      m = { inner with next := c.resume inner.next } := by
  unfold statementUntil at found
  cases parsed : d.statement (c.until stop) with
  | error e => simp only [parsed] at found; cases found
  | ok result =>
    rcases result with _ | inner
    · simp only [parsed] at found; cases found
    · simp only [parsed] at found
      cases found
      exact ⟨inner, rfl, rfl⟩

end Dispatch

/-! ### Cursor steps -/

namespace Cursor

variable {c next : Cursor} {kind : TokenKind}

theorem index_lt_stop_of_kind (onToken : c.kind? = some kind) : c.index < c.stop := by
  unfold kind? token? at onToken
  split at onToken
  · assumption
  · cases onToken

theorem index_lt_stop_of_isAt (onToken : c.isAt kind = true) : c.index < c.stop := by
  unfold isAt at onToken
  exact index_lt_stop_of_kind (by simpa using onToken)

@[simp] theorem advance_line (c : Cursor) : c.advance.line = c.line := by
  unfold advance; split <;> rfl

theorem next?_eq_some (found : c.next? = some next) : next = c.advance ∧ next.index < next.stop := by
  unfold next? atEnd at found
  dsimp only at found
  split at found
  · cases found
  · rename_i notAtEnd
    cases found
    exact ⟨rfl, by simpa using notAtEnd⟩

/-- Off a word, skipping words stays put. -/
theorem skipWords_of_not_isAt (notWord : c.isAt .word = false) : c.skipWords = c := by
  rw [skipWords.eq_1 c]
  split
  · rw [if_neg (by rw [notWord]; exact Bool.false_ne_true)]
  · rfl

theorem skip?_eq_some (skipped : c.skip? kind false = some next) :
    c.index < c.stop ∧ next = c.advance := by
  unfold skip? at skipped
  simp only [Bool.false_and, Bool.false_eq_true, if_false] at skipped
  split at skipped
  · cases skipped
    exact ⟨index_lt_stop_of_isAt ‹_›, rfl⟩
  · cases skipped

/-- `next` lies at or after `c`, in the view of `c` and on its line. -/
structure Reaches (c next : Cursor) : Prop where
  index_le : c.index ≤ next.index
  le_stop : next.index ≤ c.stop
  stop_eq : next.stop = c.stop
  line_eq : next.line = c.line

/-- `next` lies strictly after `c`, in the view of `c` and on its line: where a
match that started at `c` may end. -/
structure Advances (c next : Cursor) : Prop where
  index_lt : c.index < next.index
  le_stop : next.index ≤ c.stop
  stop_eq : next.stop = c.stop
  line_eq : next.line = c.line

theorem Reaches.refl (inside : c.index ≤ c.stop) : c.Reaches c :=
  ⟨Nat.le_refl _, inside, rfl, rfl⟩

theorem Advances.reaches (moved : c.Advances next) : c.Reaches next :=
  ⟨Nat.le_of_lt moved.index_lt, moved.le_stop, moved.stop_eq, moved.line_eq⟩

theorem Reaches.trans {last : Cursor} (first : c.Reaches next) (second : next.Reaches last) :
    c.Reaches last where
  index_le := Nat.le_trans first.index_le second.index_le
  le_stop := by have := second.le_stop; have := first.stop_eq; omega
  stop_eq := second.stop_eq.trans first.stop_eq
  line_eq := second.line_eq.trans first.line_eq

theorem Advances.trans_reaches {last : Cursor} (first : c.Advances next)
    (second : next.Reaches last) : c.Advances last where
  index_lt := Nat.lt_of_lt_of_le first.index_lt second.index_le
  le_stop := by have := second.le_stop; have := first.stop_eq; omega
  stop_eq := second.stop_eq.trans first.stop_eq
  line_eq := second.line_eq.trans first.line_eq

theorem Reaches.trans_advances {last : Cursor} (first : c.Reaches next)
    (second : next.Advances last) : c.Advances last where
  index_lt := Nat.lt_of_le_of_lt first.index_le second.index_lt
  le_stop := by have := second.le_stop; have := first.stop_eq; omega
  stop_eq := second.stop_eq.trans first.stop_eq
  line_eq := second.line_eq.trans first.line_eq

theorem Advances.trans {last : Cursor} (first : c.Advances next) (second : next.Advances last) :
    c.Advances last :=
  first.trans_reaches second.reaches

theorem Advances.inside (moved : c.Advances next) : next.index ≤ next.stop := by
  have := moved.le_stop
  have := moved.stop_eq
  omega

theorem advances_advance (inside : c.index < c.stop) : c.Advances c.advance where
  index_lt := by rw [advance_index_of_lt inside]; omega
  le_stop := by rw [advance_index_of_lt inside]; omega
  stop_eq := advance_stop c
  line_eq := advance_line c

end Cursor

/-! ### What each operand parser returns -/

namespace Parse

open Cursor

variable {sub : Dispatch} {bindings : Bindings} {c : Cursor} {m : ExprMatch}

/-- A literal is one token, or a minus and the number right after it. -/
theorem data_eq_some (found : data c = .ok (some m)) :
    m.node = .literal m.value (c.spanTo m.next) ∧ c.index < c.stop ∧
      (m.next = c.advance ∨ c.advance.index < c.advance.stop ∧ m.next = c.advance.advance) := by
  unfold data at found
  split at found
  case h_1 onTrue =>
    cases found
    exact ⟨rfl, index_lt_stop_of_kind onTrue, .inl rfl⟩
  case h_2 onFalse =>
    cases found
    exact ⟨rfl, index_lt_stop_of_kind onFalse, .inl rfl⟩
  case h_3 onText =>
    cases found
    exact ⟨rfl, index_lt_stop_of_kind onText, .inl rfl⟩
  case h_4 onNumber =>
    split at found
    · cases found
      exact ⟨rfl, index_lt_stop_of_kind onNumber, .inl rfl⟩
    · cases found
  case h_5 onMinus =>
    split at found
    · rename_i number following
      obtain ⟨rfl, inside⟩ := next?_eq_some following
      split at found
      · split at found
        · cases found
          exact ⟨rfl, index_lt_stop_of_kind onMinus, .inr ⟨inside, rfl⟩⟩
        · cases found
      · cases found
    · cases found
  case h_6 => cases found

/-- A reference is one word, bound to the value it reads. -/
theorem reference_eq_some (found : reference bindings c = .ok (some m)) :
    bindings.get? c.text = some m.value ∧ m.node = .reference c.text (c.spanTo m.next) ∧
      c.index < c.stop ∧ m.next = c.advance := by
  unfold reference at found
  split at found
  · rename_i onWord
    split at found
    · rename_i value bound
      cases found
      exact ⟨bound, rfl, index_lt_stop_of_isAt onWord, rfl⟩
    · cases found
  · cases found

/-- A decimal comma is three tokens, digits, the comma and digits, read as one literal. -/
theorem decimalComma_eq_some (found : decimalComma c = .ok (some m)) :
    m.node = .literal m.value (c.spanTo m.next) ∧ c.index < c.stop ∧
      c.advance.index < c.advance.stop ∧ c.advance.advance.index < c.advance.advance.stop ∧
      m.next = c.advance.advance.advance := by
  unfold decimalComma at found
  split at found
  · cases found
  · rename_i digits
    dsimp only at found
    split at found
    · cases found
    · rename_i fraction chosen
      split at found
      · cases found
      · cases found
        simp only [Option.filter_eq_some_iff, Option.bind_eq_some_iff] at chosen
        obtain ⟨⟨comma, ⟨following, -⟩, afterComma⟩, -⟩ := chosen
        obtain ⟨rfl, commaInside⟩ := next?_eq_some following
        obtain ⟨rfl, fractionInside⟩ := next?_eq_some afterComma
        have onNumber : c.isAt .number = true := by
          simp only [atDigitRun, Bool.not_eq_true, Bool.not_eq_false', Bool.and_eq_true] at digits
          exact digits.1
        exact ⟨rfl, index_lt_stop_of_isAt onNumber, commaInside, fractionInside, rfl⟩

/-- A group is `(`, an expression read one level deeper and `)`; it has the value
of that expression. -/
theorem group_eq_some (found : group sub c = .ok (some m)) :
    ∃ inner, sub.expression c.advance = .ok (some inner) ∧ c.index < c.stop ∧
      inner.next.index < inner.next.stop ∧ m.next = inner.next.advance ∧
      m.node = .group inner.node (c.spanTo m.next) ∧ m.value = inner.value := by
  unfold group at found
  split at found
  · cases found
  · rename_i innerStart opened
    obtain ⟨inside, rfl⟩ := skip?_eq_some opened
    cases parsed : sub.expression c.advance with
    | error e => rw [parsed] at found; cases found
    | ok result =>
      rw [parsed] at found
      cases result with
      | none => cases found
      | some inner =>
        simp only [bind, Except.bind] at found
        split at found
        · rename_i next closed
          obtain ⟨closeInside, rfl⟩ := skip?_eq_some closed
          cases found
          exact ⟨inner, rfl, inside, closeInside, rfl, rfl, rfl⟩
        · cases found

/-- Every item of an argument list was read before or is an expression match of the
nested dispatch. -/
theorem argumentItems_items {listStart : Cursor} {bound : Nat} {current : Cursor}
    {read items : List ExprMatch} {next : Cursor}
    (found : argumentItems sub listStart bound current read = .ok (items, next)) :
    ∀ item ∈ items, item ∈ read ∨ ∃ p, sub.expression p = .ok (some item) := by
  fun_induction argumentItems sub listStart bound current read with
  | case1 | case2 | case4 | case6 | case8 => cases found
  | case3 current read item parsed _ _ inductionHypothesis
  | case5 current read item parsed _ _ inductionHypothesis =>
    intro x member
    rcases inductionHypothesis found x member with earlier | fresh
    · rcases List.mem_append.mp earlier with before | isItem
      · exact .inl before
      · rw [List.mem_singleton.mp isItem]
        exact .inr ⟨current, parsed⟩
    · exact .inr fresh
  | case7 current read item parsed _ =>
    cases found
    intro x member
    rcases List.mem_append.mp member with before | isItem
    · exact .inl before
    · rw [List.mem_singleton.mp isItem]
      exact .inr ⟨current, parsed⟩

theorem arguments_items {listStart : Cursor} {items : List ExprMatch} {next : Cursor}
    (found : arguments sub listStart = .ok (items, next)) :
    ∀ item ∈ items, ∃ p, sub.expression p = .ok (some item) := by
  unfold arguments at found
  split at found
  · cases found
    intro _ member
    cases member
  · intro item member
    rcases argumentItems_items found item member with before | fresh
    · cases before
    · exact fresh

/-- A call is a built-in name, `(` and its arguments up to `)`; it has the value of
the built-in applied to the values of the arguments. -/
theorem call_eq_some (found : call sub c = .ok (some m)) :
    ∃ items, c.index < c.stop ∧ c.advance.index < c.advance.stop ∧
      arguments sub c.advance.advance = .ok (items, m.next) ∧
      callBuiltin c.text (items.map ExprMatch.value) c.line = .ok m.value ∧
      m.node = .call c.text (items.map ExprMatch.node) (c.spanTo m.next) := by
  unfold call at found
  split at found
  · cases found
  · rename_i named
    split at found
    · rename_i listStart opened
      obtain ⟨openInside, rfl⟩ := skip?_eq_some opened
      have onWord : c.isAt .word = true := by simp_all
      cases read : arguments sub c.advance.advance with
      | error e => rw [read] at found; cases found
      | ok result =>
        obtain ⟨items, next⟩ := result
        rw [read] at found
        simp only [bind, Except.bind] at found
        split at found
        · rename_i value applied
          cases found
          exact ⟨items, index_lt_stop_of_isAt onWord, openInside, rfl, applied, rfl⟩
        · cases found
    · cases found

/-! ### Operator chains -/

theorem combine_eq_ok {left right joined : ExprMatch} {op : BinaryOperator} {line : Nat}
    (joinedOk : combine left op right line = .ok joined) :
    op.apply left.value right.value line = .ok joined.value ∧ joined.next = right.next ∧
      joined.node = .binary op left.node right.node ⟨left.node.span.first, right.node.span.last⟩ := by
  unfold combine at joinedOk
  split at joinedOk
  · cases joinedOk
  · rename_i value applied
    cases joinedOk
    exact ⟨applied, rfl, rfl⟩

theorem operatorAt?_inside {op : BinaryOperator} (onOperator : operatorAt? c = some op) :
    c.index < c.stop := by
  unfold operatorAt? at onOperator
  cases kind : c.kind? with
  | none => rw [kind] at onOperator; cases onOperator
  | some k => exact index_lt_stop_of_kind kind

variable {operand : Cursor → Attempt ExprMatch} {bound : Nat}

/-- A property of matches that every operand read after an operator has, and that
combining two matches keeps, holds of every result of `climb` and `tighten`; and
every error they fail with is one that reading an operand or combining fails with.
The induction follows the recursion of the two functions; the guards on progress
play no part, since each of their branches returns a match the property already
holds of. -/
theorem climb_tighten_satisfies (holds : ExprMatch → Prop) (onError : InterpretError → Prop)
    (operandHolds : ∀ left op, holds left → operatorAt? left.next = some op →
      (operand left.next.advance).Satisfies (fun found => ∀ m ∈ found, holds m) onError)
    (combineHolds : ∀ left op right, holds left → holds right →
      (combine left op right left.next.line).Satisfies holds onError) :
    (∀ minPrecedence left, holds left →
        (climb operand bound minPrecedence left).Satisfies holds onError) ∧
    (∀ op right, holds right → (tighten operand bound op right).Satisfies holds onError) := by
  apply climb.mutual_induct operand bound
  · intro p left noOperator leftHolds
    rw [climb]
    simp only [noOperator]
    exact leftHolds
  · intro p left op onOperator binds e failed leftHolds
    rw [climb]
    simp only [onOperator, binds, failed, if_true]
    exact (operandHolds left op leftHolds onOperator).of_error failed
  · intro p left op onOperator binds declined leftHolds
    rw [climb]
    simp only [onOperator, binds, declined, if_true]
    exact leftHolds
  · intro p left op onOperator binds right read progress e failed tightenHolds leftHolds
    rw [climb]
    simp only [onOperator, binds, read, progress, failed, if_true, and_self, dite_true]
    have rightHolds : holds right := (operandHolds left op leftHolds onOperator).of_ok read right rfl
    exact (tightenHolds rightHolds).of_error failed
  · intro p left op onOperator binds right read progress tightened tightenedOk e failed tightenHolds
      leftHolds
    rw [climb]
    simp only [onOperator, binds, read, progress, tightenedOk, failed, if_true, and_self, dite_true]
    have rightHolds : holds right := (operandHolds left op leftHolds onOperator).of_ok read right rfl
    have tightenedHolds : holds tightened := (tightenHolds rightHolds).of_ok tightenedOk
    exact (combineHolds left op tightened leftHolds tightenedHolds).of_error failed
  · intro p left op onOperator binds right read progress tightened tightenedOk joined joinedOk moved
      tightenHolds climbHolds leftHolds
    rw [climb]
    simp only [onOperator, binds, read, progress, tightenedOk, joinedOk, moved, if_true]
    have rightHolds : holds right := (operandHolds left op leftHolds onOperator).of_ok read right rfl
    have tightenedHolds : holds tightened := (tightenHolds rightHolds).of_ok tightenedOk
    have joinedHolds : holds joined :=
      (combineHolds left op tightened leftHolds tightenedHolds).of_ok joinedOk
    exact climbHolds joinedHolds
  · intro p left op onOperator binds right read progress tightened tightenedOk joined joinedOk
      stuck tightenHolds leftHolds
    rw [climb]
    simp only [onOperator, binds, read, progress, tightenedOk, joinedOk, stuck, if_true,
      dif_neg, not_false_eq_true]
    have rightHolds : holds right := (operandHolds left op leftHolds onOperator).of_ok read right rfl
    have tightenedHolds : holds tightened := (tightenHolds rightHolds).of_ok tightenedOk
    exact (combineHolds left op tightened leftHolds tightenedHolds).of_ok joinedOk
  · intro p left op onOperator binds right read noProgress leftHolds
    rw [climb]
    simp only [onOperator, binds, read, noProgress, if_true, dif_neg, not_false_eq_true]
    exact leftHolds
  · intro p left op onOperator loose leftHolds
    rw [climb]
    simp only [onOperator, loose, if_false]
    exact leftHolds
  · intro op right noOperator rightHolds
    rw [tighten]
    simp only [noOperator]
    exact rightHolds
  · intro op right following onOperator tighter e failed climbHolds rightHolds
    rw [tighten]
    simp only [onOperator, tighter, failed, if_true]
    exact (climbHolds rightHolds).of_error failed
  · intro op right following onOperator tighter extended extendedOk moved climbHolds tightenHolds
      rightHolds
    rw [tighten]
    simp only [onOperator, tighter, extendedOk, moved, if_true]
    have extendedHolds : holds extended := (climbHolds rightHolds).of_ok extendedOk
    exact tightenHolds extendedHolds
  · intro op right following onOperator tighter extended extendedOk stuck _ rightHolds
    rw [tighten]
    simp only [onOperator, tighter, extendedOk, stuck, if_true, dif_neg, not_false_eq_true]
    exact rightHolds
  · intro op right following onOperator notTighter rightHolds
    rw [tighten]
    simp only [onOperator, notTighter, if_false]
    exact rightHolds

/-- What operands have and combining keeps, every result of `climb` and `tighten`
has: the successes of `climb_tighten_satisfies`. -/
theorem climb_tighten_preserve (holds : ExprMatch → Prop)
    (operandHolds : ∀ left op m, holds left → operatorAt? left.next = some op →
      operand left.next.advance = .ok (some m) → holds m)
    (combineHolds : ∀ left op right joined, holds left → holds right →
      combine left op right left.next.line = .ok joined → holds joined) :
    (∀ minPrecedence left, holds left →
        ∀ r, climb operand bound minPrecedence left = .ok r → holds r) ∧
    (∀ op right, holds right → ∀ r, tighten operand bound op right = .ok r → holds r) := by
  -- no error is excluded
  have operandOk : ∀ left op, holds left → operatorAt? left.next = some op →
      (operand left.next.advance).Satisfies (fun found => ∀ m ∈ found, holds m) fun _ => True :=
    fun left op leftHolds onOperator => Except.satisfies_iff.2 ⟨fun found read m member =>
      operandHolds left op m leftHolds onOperator (by rw [read, Option.mem_def.1 member]),
      fun _ _ => trivial⟩
  have combineOk : ∀ left op right, holds left → holds right →
      (combine left op right left.next.line).Satisfies holds fun _ => True :=
    fun left op right leftHolds rightHolds => Except.satisfies_iff.2
      ⟨fun joined joinedOk => combineHolds left op right joined leftHolds rightHolds joinedOk,
        fun _ _ => trivial⟩
  exact (climb_tighten_satisfies holds (fun _ => True) operandOk combineOk).imp
    (fun climbOk p left leftHolds _ found => (climbOk p left leftHolds).of_ok found)
    (fun tightenOk op right rightHolds _ found => (tightenOk op right rightHolds).of_ok found)

/-- A chain is its first operand extended by `climb` from the lowest level. -/
theorem binaryOperation_eq_some (found : binaryOperation operand c = .ok (some m)) :
    ∃ first, operand c = .ok (some first) ∧ climb operand c.stop 1 first = .ok m := by
  unfold binaryOperation at found
  cases read : operand c with
  | error e => rw [read] at found; cases found
  | ok result =>
    rw [read] at found
    rcases result with _ | first
    · cases found
    · cases climbed : climb operand c.stop 1 first with
      | error e => simp only [climbed] at found; cases found
      | ok r =>
        simp only [climbed] at found
        cases found
        exact ⟨first, rfl, climbed⟩

end Parse

/-! ### Progress -/

/-- Every expression match of `d`, by all parsers or by those registered after a
named one, advances. -/
structure Dispatch.Progressive (d : Dispatch) : Prop where
  expression : ∀ c m, d.expression c = .ok (some m) → c.Advances m.next
  operand : ∀ after c m, d.operand after c = .ok (some m) → c.Advances m.next

namespace Parse

open Cursor

variable {sub : Dispatch} {c : Cursor} {m : ExprMatch}

theorem group_advances (progressive : sub.Progressive) (found : group sub c = .ok (some m)) :
    c.Advances m.next := by
  obtain ⟨inner, parsed, inside, closeInside, atEnd, -⟩ := group_eq_some found
  rw [atEnd]
  exact ((advances_advance inside).trans (progressive.expression _ _ parsed)).trans
    (advances_advance closeInside)

theorem argumentItems_advances (progressive : sub.Progressive) {listStart : Cursor}
    {bound : Nat} {current : Cursor} {read items : List ExprMatch} {next : Cursor}
    (found : argumentItems sub listStart bound current read = .ok (items, next)) :
    current.Advances next := by
  fun_induction argumentItems sub listStart bound current read with
  | case1 | case2 | case4 | case6 | case8 => cases found
  | case3 current read item parsed onSeparator _ inductionHypothesis
  | case5 current read item parsed onSeparator _ inductionHypothesis =>
    exact ((progressive.expression _ _ parsed).trans
      (advances_advance (index_lt_stop_of_kind onSeparator))).trans (inductionHypothesis found)
  | case7 current read item parsed onClose =>
    cases found
    exact (progressive.expression _ _ parsed).trans (advances_advance (index_lt_stop_of_kind onClose))

theorem arguments_advances (progressive : sub.Progressive) {listStart : Cursor}
    {items : List ExprMatch} {next : Cursor}
    (found : arguments sub listStart = .ok (items, next)) : listStart.Advances next := by
  unfold arguments at found
  split at found
  · rename_i after closed
    obtain ⟨inside, rfl⟩ := skip?_eq_some closed
    cases found
    exact advances_advance inside
  · exact argumentItems_advances progressive found

theorem call_advances (progressive : sub.Progressive) (found : call sub c = .ok (some m)) :
    c.Advances m.next := by
  obtain ⟨items, inside, openInside, listRead, -, -⟩ := call_eq_some found
  exact ((advances_advance inside).trans (advances_advance openInside)).trans
    (arguments_advances progressive listRead)

/-- Precedence climbing never moves backwards: every result of `climb` and of
`tighten` ends at or after where its left operand ended, in the same view. -/
theorem climb_tighten_reach {operand : Cursor → Attempt ExprMatch} {bound : Nat}
    (advances : ∀ p m, operand p = .ok (some m) → p.Advances m.next) (start : Cursor) :
    (∀ minPrecedence left, start.Reaches left.next →
        ∀ r, climb operand bound minPrecedence left = .ok r → start.Reaches r.next) ∧
    (∀ op right, start.Reaches right.next →
        ∀ r, tighten operand bound op right = .ok r → start.Reaches r.next) := by
  apply climb_tighten_preserve (fun m => start.Reaches m.next)
  · intro left op m leftReached onOperator read
    exact leftReached.trans_advances
      ((advances_advance (operatorAt?_inside onOperator)).trans (advances _ _ read)) |>.reaches
  · intro left op right joined _ rightReached joinedOk
    rw [(combine_eq_ok joinedOk).2.1]
    exact rightReached

theorem binaryOperation_advances {operand : Cursor → Attempt ExprMatch}
    (advances : ∀ p m, operand p = .ok (some m) → p.Advances m.next)
    (found : binaryOperation operand c = .ok (some m)) : c.Advances m.next := by
  obtain ⟨first, read, climbed⟩ := binaryOperation_eq_some found
  have toFirst := advances _ _ read
  exact toFirst.trans_reaches
    ((climb_tighten_reach advances first.next).1 1 first (Reaches.refl toFirst.inside) m climbed)

end Parse

open Cursor in
theorem ExprRule.run_advances (rule : ExprRule) {bindings : Bindings} {sub : Dispatch}
    (progressive : sub.Progressive) {c : Cursor} {m : ExprMatch}
    (found : rule.run bindings sub c = .ok (some m)) : c.Advances m.next := by
  cases rule with
  | binaryOperation => exact Parse.binaryOperation_advances (progressive.operand _) found
  | group => exact Parse.group_advances progressive found
  | function => exact Parse.call_advances progressive found
  | decimalComma =>
    obtain ⟨-, inside, commaInside, fractionInside, atEnd⟩ := Parse.decimalComma_eq_some found
    rw [atEnd]
    exact ((advances_advance inside).trans (advances_advance commaInside)).trans
      (advances_advance fractionInside)
  | data =>
    obtain ⟨-, inside, single | ⟨numberInside, double⟩⟩ := Parse.data_eq_some found
    · rw [single]
      exact advances_advance inside
    · rw [double]
      exact (advances_advance inside).trans (advances_advance numberInside)
  | variableReference =>
    obtain ⟨-, -, inside, single⟩ := Parse.reference_eq_some found
    rw [single]
    exact advances_advance inside

namespace Dispatch

theorem exhausted_progressive : exhausted.Progressive where
  expression _ _ found := by cases found
  operand _ _ _ found := by cases found

theorem step_progressive {order : Order} {bindings : Bindings} {sub : Dispatch}
    (progressive : sub.Progressive) : (step order bindings sub).Progressive where
  expression c m found := by
    obtain ⟨_, rule, _, _, ran, rfl⟩ := firstMatch_eq_some found
    exact (ExprRule.run_advances rule progressive ran :)
  operand after c m found := by
    obtain ⟨_, rule, _, _, ran, rfl⟩ := firstMatch_eq_some found
    exact (ExprRule.run_advances rule progressive ran :)

/-- Every expression match, at every nesting level, advances within its view. -/
theorem withLevels_progressive (order : Order) (bindings : Bindings) (levels : Nat) :
    (withLevels order bindings levels).Progressive :=
  withLevels_invariant order bindings Progressive exhausted_progressive
    (fun _ progressive => step_progressive progressive) levels

end Dispatch

end Reckon
