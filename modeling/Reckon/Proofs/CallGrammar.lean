import Reckon.Proofs.Termination

/-!
Contract: a call of a built-in function reads exactly the grammar of its argument
list, and ends in one of the outcomes that grammar gives.

A call starts at a word that names a built-in function with `(` as the next token
(`Cursor.AtCall`); anywhere else it declines, whatever the variables are. From
there it commits. After `(` come `)` alone, or items up to `)`: each item is the
expression the nested dispatch reads at its place, followed by `,` or `;`, the
last by `)` (`Dispatch.ItemsRead`, `Dispatch.ArgumentsRead`). On such arguments
the call has the value of the built-in function on the items' values and ends
after the `)`, or fails with the function's error, which is a count of arguments
it does not take, an argument outside its domain or not a number, or a result
out of range (`RuntimeError.IsCallFailure`). Where the items read so far reach a
place (`Dispatch.ItemsReach`) at which no expression is read, or the one read is
followed by neither a separator nor `)` (`Dispatch.BreaksAt`), the call fails for
want of `)`. Where reading an item fails, the call fails with that error: a
division by zero inside an argument, or the nesting limit, is the call's error.

`Parse.CallOutcome` lists these outcomes and `Parse.call_eq_iff_callOutcome` says
the call ends in exactly them. The crux is the loop over the items: with every
match moving forward (`Dispatch.Progressive`), it runs without its progress guard
(`Parse.ListLoop`), so one lemma per case of the loop, composed along the items,
gives each outcome, and one functional induction gives that there is no other.

Owns: `Cursor.AtCall`, `Cursor.AtSeparator`, `Dispatch.ItemsRead`,
`Dispatch.ItemsReach`, `Dispatch.BreaksAt`, `Dispatch.ArgumentsRead`,
`Parse.CallOutcome`, `RuntimeError.IsCallFailure`.
Does not own: the value of a built-in function, progress of the parsers
(`Reckon.Proofs.Dispatch`), the loop without its guard (`Reckon.Proofs.Termination`).
-/

set_option autoImplicit false

namespace Reckon

namespace Cursor

/-- The token under the cursor separates the arguments of a call. -/
def AtSeparator (c : Cursor) : Prop :=
  c.kind? = some .comma ∨ c.kind? = some .semicolon

/-- Where a call starts: a word that names a built-in function, with `(` as the
next token. -/
structure AtCall (c : Cursor) : Prop where
  onWord : c.kind? = some .word
  named : Builtin.isName c.text = true
  opened : c.advance.kind? = some .lParen

instance (c : Cursor) : Decidable c.AtCall :=
  decidable_of_iff
    (c.kind? = some .word ∧ Builtin.isName c.text = true ∧ c.advance.kind? = some .lParen)
    ⟨fun ⟨onWord, named, opened⟩ => ⟨onWord, named, opened⟩,
      fun atCall => ⟨atCall.onWord, atCall.named, atCall.opened⟩⟩

variable {c : Cursor} {kind : TokenKind}

theorem skip?_of_kind (onKind : c.kind? = some kind) : c.skip? kind false = some c.advance := by
  simp [skip?, isAt, onKind]

theorem skip?_of_not_kind (notKind : c.kind? ≠ some kind) : c.skip? kind false = none := by
  simp [skip?, isAt, notKind]

/-- The first test of a call, a word that names a built-in function, passes. -/
theorem AtCall.starts (atCall : c.AtCall) : (c.isAt .word && Builtin.isName c.text) = true := by
  simp [isAt, atCall.onWord, atCall.named]

end Cursor

/-! ### The errors of a built-in function -/

namespace RuntimeError

/-- The errors a built-in function raises once it is found: a count of arguments
it does not take, an argument outside its domain or not a number, a result out of
range. -/
def IsCallFailure : RuntimeError → Prop
  | argumentCountMismatch .. | invalidArgument .. | expectedNumber _ | overflow _ => True
  | typeMismatch .. | divisionByZero _ | unknownFunction .. => False

end RuntimeError

section CallFailures

open Except

variable (line : Nat) {args : List Value}

@[simp] theorem finiteReal_callFailure (x : Float) :
    (finiteReal x line).Satisfies (fun _ => True) RuntimeError.IsCallFailure := by
  unfold finiteReal
  split <;> simp [RuntimeError.IsCallFailure]

@[simp] theorem checkedInteger_callFailure (r : Int) :
    (checkedInteger r line).Satisfies (fun _ => True) RuntimeError.IsCallFailure := by
  unfold checkedInteger
  split <;> simp [RuntimeError.IsCallFailure]

@[simp] theorem Value.asReal_callFailure (v : Value) :
    (v.asReal line).Satisfies (fun _ => True) RuntimeError.IsCallFailure := by
  unfold Value.asReal exactReal
  split
  case h_2 => split <;> simp [RuntimeError.IsCallFailure]
  all_goals simp [RuntimeError.IsCallFailure]

namespace Builtin

@[simp] theorem firstReal_callFailure (args : List Value) :
    (firstReal args line).Satisfies (fun _ => True) RuntimeError.IsCallFailure := by
  cases args <;> simp [firstReal, RuntimeError.IsCallFailure]

@[simp] theorem integralOrReal_callFailure (x : Float) :
    (integralOrReal x line).Satisfies (fun _ => True) RuntimeError.IsCallFailure := by
  unfold integralOrReal
  split <;> simp

theorem scanExtreme_callFailure (pickLess : Bool) :
    ∀ (best : Option (Value × Float)) (args : List Value),
      (scanExtreme pickLess line best args).Satisfies (fun _ => True) RuntimeError.IsCallFailure
  | _, [] => trivial
  | best, arg :: rest => by
    simp only [scanExtreme, satisfies_bind]
    exact (Value.asReal_callFailure line arg).mono
      (fun _ _ => scanExtreme_callFailure pickLess _ rest) (fun _ => id)

theorem extreme_callFailure (pickLess : Bool) :
    (extreme pickLess args line).Satisfies (fun _ => True) RuntimeError.IsCallFailure := by
  simp only [extreme, satisfies_bind]
  refine (scanExtreme_callFailure line pickLess none args).mono (fun found _ => ?_) (fun _ => id)
  -- no best argument is left only when there were no arguments
  cases found <;> simp [RuntimeError.IsCallFailure]

@[simp] theorem squareRoot_callFailure :
    (squareRoot args line).Satisfies (fun _ => True) RuntimeError.IsCallFailure := by
  unfold squareRoot
  simp only [satisfies_bind]
  refine (firstReal_callFailure line args).mono (fun x _ => ?_) (fun _ => id)
  split
  · simp [RuntimeError.IsCallFailure]
  · split
    · split
      · split <;> simp
      · simp
    · simp

@[simp] theorem roundWith_callFailure (rounding : Float → Float) :
    (roundWith rounding args line).Satisfies (fun _ => True) RuntimeError.IsCallFailure := by
  unfold roundWith
  split <;> simp

@[simp] theorem realFunction_callFailure (f : Float → Float) :
    (realFunction f args line).Satisfies (fun _ => True) RuntimeError.IsCallFailure := by
  simp [realFunction]

theorem evaluate_callFailure (f : Builtin) :
    (f.evaluate args line).Satisfies (fun _ => True) RuntimeError.IsCallFailure := by
  cases f
  case abs =>
    rcases args with _ | ⟨_ | _ | _ | _, rest⟩ <;> simp [evaluate, RuntimeError.IsCallFailure]
  case ln =>
    simp only [evaluate, satisfies_bind]
    refine (firstReal_callFailure line args).mono (fun x _ => ?_) (fun _ => id)
    split <;> simp [RuntimeError.IsCallFailure]
  case min | max => exact extreme_callFailure line _
  all_goals simp [evaluate]

end Builtin

/-- A built-in function that is found fails only with a count of arguments it does
not take, an argument outside its domain or not a number, or a result out of range. -/
theorem callBuiltin_callFailure {name : String} (named : Builtin.isName name = true) :
    (callBuiltin name args line).Satisfies (fun _ => True) RuntimeError.IsCallFailure := by
  unfold callBuiltin
  cases found : Builtin.ofName? name with
  | none => simp [Builtin.isName, found] at named
  | some f =>
    dsimp only
    split
    · exact Builtin.evaluate_callFailure line f
    · simp [RuntimeError.IsCallFailure]

end CallFailures

/-! ### The grammar of argument lists -/

namespace Dispatch

variable (d : Dispatch)

/-- The items of an argument list read from `current` on, up to `next` just after
the closing `)`: each item is the expression `d` reads at its place, followed by
`,` or `;`, and the last by `)`. -/
inductive ItemsRead : Cursor → List ExprMatch → Cursor → Prop
  | last {current : Cursor} {item : ExprMatch} :
      d.expression current = .ok (some item) → item.next.kind? = some .rParen →
      ItemsRead current [item] item.next.advance
  | more {current next : Cursor} {item : ExprMatch} {items : List ExprMatch} :
      d.expression current = .ok (some item) → item.next.AtSeparator →
      ItemsRead item.next.advance items next → ItemsRead current (item :: items) next

/-- `p` is the place of an item of an argument list read from `current`: the items
before it were read, each followed by a separator. -/
inductive ItemsReach : Cursor → Cursor → Prop
  | here {current : Cursor} : ItemsReach current current
  | more {current p : Cursor} {item : ExprMatch} :
      d.expression current = .ok (some item) → item.next.AtSeparator →
      ItemsReach item.next.advance p → ItemsReach current p

/-- The argument list breaks off at `p`: no expression is read there, or the one
read is followed by neither a separator nor `)`, the end of the view included. -/
def BreaksAt (p : Cursor) : Prop :=
  d.expression p = .ok none ∨
    ∃ item, d.expression p = .ok (some item) ∧ ¬item.next.AtSeparator ∧
      item.next.kind? ≠ some .rParen

/-- The arguments after `(`, from `listStart` up to `next` just after `)`: `)`
alone, or items read up to `)`. -/
inductive ArgumentsRead : Cursor → List ExprMatch → Cursor → Prop
  | empty {listStart : Cursor} :
      listStart.kind? = some .rParen → ArgumentsRead listStart [] listStart.advance
  | items {listStart next : Cursor} {items : List ExprMatch} :
      listStart.kind? ≠ some .rParen → d.ItemsRead listStart items next →
      ArgumentsRead listStart items next

variable {d} {current p : Cursor} {item : ExprMatch}

/-- The item after a separator starts in the view the list started in. -/
theorem Progressive.separator_stop (progressive : d.Progressive)
    (parsed : d.expression current = .ok (some item)) : item.next.advance.stop = current.stop := by
  rw [Cursor.advance_stop]
  exact (progressive.expression _ _ parsed).stop_eq

theorem ItemsReach.stop_eq (progressive : d.Progressive) (reach : d.ItemsReach current p) :
    p.stop = current.stop := by
  induction reach with
  | here => rfl
  | more parsed _ _ inductionHypothesis =>
    exact inductionHypothesis.trans (progressive.separator_stop parsed)

end Dispatch

namespace Parse

open Cursor

variable {d : Dispatch} {listStart current p next : Cursor} {bound : Nat}
  {read items : List ExprMatch} {item : ExprMatch} {e : InterpretError} {c : Cursor}

/-! ### One round of the loop over the items -/

section Rounds

variable (loop : ListLoop d) (atBound : current.stop = bound)
include loop atBound

theorem argumentItems_of_error (failed : d.expression current = .error e) :
    argumentItems d listStart bound current read = .error e := by
  rw [loop listStart current bound read atBound, failed]

theorem argumentItems_of_declined (declined : d.expression current = .ok none) :
    argumentItems d listStart bound current read =
      .error (.parse (.expectedClosingParen listStart.line)) := by
  rw [loop listStart current bound read atBound, declined]

theorem argumentItems_of_separator (parsed : d.expression current = .ok (some item))
    (separated : item.next.AtSeparator) :
    argumentItems d listStart bound current read =
      argumentItems d listStart bound item.next.advance (read ++ [item]) := by
  rw [loop listStart current bound read atBound, parsed]
  dsimp only
  rcases separated with comma | semicolon
  · rw [comma]
  · rw [semicolon]

theorem argumentItems_of_close (parsed : d.expression current = .ok (some item))
    (closed : item.next.kind? = some .rParen) :
    argumentItems d listStart bound current read = .ok (read ++ [item], item.next.advance) := by
  rw [loop listStart current bound read atBound, parsed]
  dsimp only
  rw [closed]

theorem argumentItems_of_break (parsed : d.expression current = .ok (some item))
    (notSeparated : ¬item.next.AtSeparator) (notClosed : item.next.kind? ≠ some .rParen) :
    argumentItems d listStart bound current read =
      .error (.parse (.expectedClosingParen listStart.line)) := by
  rw [loop listStart current bound read atBound, parsed]
  dsimp only
  cases onKind : item.next.kind? with
  | none => rfl
  | some kind =>
    cases kind
    case comma => exact absurd (.inl onKind) notSeparated
    case semicolon => exact absurd (.inr onKind) notSeparated
    case rParen => exact absurd onKind notClosed
    all_goals rfl

end Rounds

/-! ### The whole loop -/

/-- Reading the list from `current` goes on, with the items read before, from every
place it reaches. -/
theorem argumentItems_of_reach (progressive : d.Progressive) (reach : d.ItemsReach current p)
    (atBound : current.stop = bound) (read : List ExprMatch) :
    ∃ earlier, argumentItems d listStart bound current read =
      argumentItems d listStart bound p earlier := by
  induction reach generalizing read with
  | here => exact ⟨read, rfl⟩
  | @more current p item parsed separated _ inductionHypothesis =>
    rw [argumentItems_of_separator (listLoop_of_progressive progressive) atBound parsed separated]
    exact inductionHypothesis ((progressive.separator_stop parsed).trans atBound) (read ++ [item])

theorem argumentItems_of_itemsRead (progressive : d.Progressive)
    (readItems : d.ItemsRead current items next) (atBound : current.stop = bound)
    (read : List ExprMatch) :
    argumentItems d listStart bound current read = .ok (read ++ items, next) := by
  induction readItems generalizing read with
  | last parsed closed =>
    exact argumentItems_of_close (listLoop_of_progressive progressive) atBound parsed closed
  | @more current next item items parsed separated _ inductionHypothesis =>
    rw [argumentItems_of_separator (listLoop_of_progressive progressive) atBound parsed separated,
      inductionHypothesis ((progressive.separator_stop parsed).trans atBound) (read ++ [item]),
      List.append_assoc, List.singleton_append]

theorem argumentItems_of_breaksAt (progressive : d.Progressive) (reach : d.ItemsReach current p)
    (breaks : d.BreaksAt p) (atBound : current.stop = bound) (read : List ExprMatch) :
    argumentItems d listStart bound current read =
      .error (.parse (.expectedClosingParen listStart.line)) := by
  obtain ⟨earlier, same⟩ := argumentItems_of_reach progressive reach atBound read
  have atBound' : p.stop = bound := (reach.stop_eq progressive).trans atBound
  rw [same]
  rcases breaks with declined | ⟨item, parsed, notSeparated, notClosed⟩
  · exact argumentItems_of_declined (listLoop_of_progressive progressive) atBound' declined
  · exact argumentItems_of_break (listLoop_of_progressive progressive) atBound' parsed
      notSeparated notClosed

theorem argumentItems_of_item_error (progressive : d.Progressive) (reach : d.ItemsReach current p)
    (failed : d.expression p = .error e) (atBound : current.stop = bound) (read : List ExprMatch) :
    argumentItems d listStart bound current read = .error e := by
  obtain ⟨earlier, same⟩ := argumentItems_of_reach progressive reach atBound read
  rw [same]
  exact argumentItems_of_error (listLoop_of_progressive progressive)
    ((reach.stop_eq progressive).trans atBound) failed

/-- The loop ends in no other way: it reads items up to `)`, or it breaks off at a
place it reaches, or reading the item at such a place fails. -/
theorem argumentItems_satisfies (progressive : d.Progressive) :
    current.stop = bound →
      (argumentItems d listStart bound current read).Satisfies
        (fun result => ∃ items, result.1 = read ++ items ∧ d.ItemsRead current items result.2)
        (fun e => ∃ p, d.ItemsReach current p ∧
          (d.BreaksAt p ∧ e = .parse (.expectedClosingParen listStart.line) ∨
            d.expression p = .error e)) := by
  fun_induction argumentItems d listStart bound current read with
  | case1 current read e parsed => exact fun _ => ⟨current, .here, .inr parsed⟩
  | case2 current read missing parsed =>
    exact fun _ => ⟨current, .here, .inl ⟨.inl parsed, rfl⟩⟩
  | case3 current read item parsed onSeparator _ inductionHypothesis
  | case5 current read item parsed onSeparator _ inductionHypothesis =>
    intro atBound
    have separated : item.next.AtSeparator := by simp [AtSeparator, onSeparator]
    refine (inductionHypothesis ((progressive.separator_stop parsed).trans atBound)).mono ?_ ?_
    · rintro ⟨read', next⟩ ⟨items, appended, rest⟩
      exact ⟨item :: items, by simpa using appended, .more parsed separated rest⟩
    · rintro e ⟨p, reach, how⟩
      exact ⟨p, .more parsed separated reach, how⟩
  | case4 current read missing item parsed onSeparator outside
  | case6 current read missing item parsed onSeparator outside =>
    -- the progress guard fails, which no progressive dispatch allows
    exact fun atBound => absurd (separator_inside progressive atBound parsed onSeparator) outside
  | case7 current read item parsed closed => exact fun _ => ⟨[item], rfl, .last parsed closed⟩
  | case8 current read missing item parsed notComma notSemicolon notClosed =>
    intro _
    have notSeparated : ¬item.next.AtSeparator := fun separated =>
      separated.elim notComma notSemicolon
    exact ⟨current, .here, .inl ⟨.inr ⟨item, parsed, notSeparated, notClosed⟩, rfl⟩⟩

/-! ### Argument lists and calls -/

theorem arguments_of_closed (closed : listStart.kind? = some .rParen) :
    arguments d listStart = .ok ([], listStart.advance) := by
  rw [arguments, skip?_of_kind closed]

theorem arguments_of_open (notClosed : listStart.kind? ≠ some .rParen) :
    arguments d listStart = argumentItems d listStart listStart.stop listStart [] := by
  rw [arguments, skip?_of_not_kind notClosed]

theorem arguments_of_argumentsRead (progressive : d.Progressive)
    (read : d.ArgumentsRead listStart items next) : arguments d listStart = .ok (items, next) := by
  cases read with
  | empty closed => exact arguments_of_closed closed
  | items notClosed readItems =>
    rw [arguments_of_open notClosed, argumentItems_of_itemsRead progressive readItems rfl [],
      List.nil_append]

theorem arguments_satisfies (progressive : d.Progressive)
    (notClosed : listStart.kind? ≠ some .rParen) :
    (arguments d listStart).Satisfies (fun result => d.ItemsRead listStart result.1 result.2)
      (fun e => ∃ p, d.ItemsReach listStart p ∧
        (d.BreaksAt p ∧ e = .parse (.expectedClosingParen listStart.line) ∨
          d.expression p = .error e)) := by
  rw [arguments_of_open notClosed]
  refine (argumentItems_satisfies progressive rfl).mono ?_ (fun _ => id)
  rintro ⟨items, next⟩ ⟨items', appended, readItems⟩
  rw [List.nil_append] at appended
  rw [appended]
  exact readItems

theorem call_of_not_atCall (notCall : ¬c.AtCall) : call d c = .ok none := by
  unfold call
  by_cases named : (c.isAt .word && Builtin.isName c.text) = true
  · -- a built-in name, so it is the `(` that is missing
    have notOpen : c.advance.kind? ≠ some .lParen := by
      intro opened
      simp only [Bool.and_eq_true, isAt, beq_iff_eq] at named
      exact notCall ⟨named.1, named.2, opened⟩
    simp [named, skip?_of_not_kind notOpen, pure, Except.pure]
  · simp [named, pure, Except.pure]

theorem call_of_arguments_error (atCall : c.AtCall)
    (failed : arguments d c.advance.advance = .error e) : call d c = .error e := by
  simp only [call, atCall.starts, skip?_of_kind atCall.opened, failed, Bool.not_true,
    Bool.false_eq_true, if_false, bind, Except.bind]

theorem call_of_builtin_ok {value : Value} (atCall : c.AtCall)
    (read : arguments d c.advance.advance = .ok (items, next))
    (evaluated : callBuiltin c.text (items.map ExprMatch.value) c.line = .ok value) :
    call d c = .ok (some
      { node := .call c.text (items.map ExprMatch.node) (c.spanTo next), value, next,
        parser := "" }) := by
  simp only [call, atCall.starts, skip?_of_kind atCall.opened, read, evaluated, Bool.not_true,
    Bool.false_eq_true, if_false, bind, Except.bind, pure, Except.pure]

theorem call_of_builtin_error {r : RuntimeError} (atCall : c.AtCall)
    (read : arguments d c.advance.advance = .ok (items, next))
    (failed : callBuiltin c.text (items.map ExprMatch.value) c.line = .error r) :
    call d c = .error (.runtime r) := by
  simp only [call, atCall.starts, skip?_of_kind atCall.opened, read, failed, Bool.not_true,
    Bool.false_eq_true, if_false, bind, Except.bind, throw, throwThe, MonadExceptOf.throw]

/-! ### The outcomes of a call -/

/-- The outcomes the grammar of calls gives a call at `c` read with `d`. It declines
where no call starts. Otherwise, on arguments that follow the grammar, it has the
value of the built-in function and ends after `)`, or fails with the function's
error. Where the list breaks off it fails for want of `)`, on the line of the call,
and where reading an item fails it fails with that error. -/
inductive CallOutcome (d : Dispatch) (c : Cursor) : Attempt ExprMatch → Prop
  | declined : ¬c.AtCall → CallOutcome d c (.ok none)
  | called {items : List ExprMatch} {next : Cursor} {value : Value} :
      c.AtCall → d.ArgumentsRead c.advance.advance items next →
      callBuiltin c.text (items.map ExprMatch.value) c.line = .ok value →
      CallOutcome d c (.ok (some
        { node := .call c.text (items.map ExprMatch.node) (c.spanTo next), value, next,
          parser := "" }))
  | builtinFailed {items : List ExprMatch} {next : Cursor} {r : RuntimeError} :
      c.AtCall → d.ArgumentsRead c.advance.advance items next →
      callBuiltin c.text (items.map ExprMatch.value) c.line = .error r → r.IsCallFailure →
      CallOutcome d c (.error (.runtime r))
  | unclosed {p : Cursor} :
      c.AtCall → c.advance.advance.kind? ≠ some .rParen → d.ItemsReach c.advance.advance p →
      d.BreaksAt p → CallOutcome d c (.error (.parse (.expectedClosingParen c.line)))
  | itemFailed {p : Cursor} {e : InterpretError} :
      c.AtCall → c.advance.advance.kind? ≠ some .rParen → d.ItemsReach c.advance.advance p →
      d.expression p = .error e → CallOutcome d c (.error e)

theorem call_of_callOutcome (progressive : d.Progressive) {outcome : Attempt ExprMatch}
    (allowed : CallOutcome d c outcome) : call d c = outcome := by
  cases allowed with
  | declined notCall => exact call_of_not_atCall notCall
  | called atCall read evaluated =>
    exact call_of_builtin_ok atCall (arguments_of_argumentsRead progressive read) evaluated
  | builtinFailed atCall read failed _ =>
    exact call_of_builtin_error atCall (arguments_of_argumentsRead progressive read) failed
  | unclosed atCall notClosed reach breaks =>
    have sameLine : c.advance.advance.line = c.line := by simp
    apply call_of_arguments_error atCall
    rw [arguments_of_open notClosed, argumentItems_of_breaksAt progressive reach breaks rfl,
      sameLine]
  | itemFailed atCall notClosed reach failed =>
    apply call_of_arguments_error atCall
    rw [arguments_of_open notClosed]
    exact argumentItems_of_item_error progressive reach failed rfl []

theorem callOutcome_call (progressive : d.Progressive) (c : Cursor) :
    CallOutcome d c (call d c) := by
  by_cases atCall : c.AtCall
  case neg =>
    rw [call_of_not_atCall atCall]
    exact .declined atCall
  case pos =>
    -- once the arguments are read, the built-in function decides the outcome
    have evaluated : ∀ {items next}, d.ArgumentsRead c.advance.advance items next →
        CallOutcome d c (call d c) := by
      intro items next read
      have listed := arguments_of_argumentsRead progressive read
      cases result : callBuiltin c.text (items.map ExprMatch.value) c.line with
      | ok value =>
        rw [call_of_builtin_ok atCall listed result]
        exact .called atCall read result
      | error r =>
        rw [call_of_builtin_error atCall listed result]
        exact .builtinFailed atCall read result
          ((callBuiltin_callFailure c.line atCall.named).of_error result)
    by_cases closed : c.advance.advance.kind? = some .rParen
    case pos => exact evaluated (.empty closed)
    case neg =>
      have listed := arguments_satisfies progressive closed
      cases read : arguments d c.advance.advance with
      | ok result => exact evaluated (.items closed (listed.of_ok read))
      | error e =>
        rw [call_of_arguments_error atCall read]
        obtain ⟨p, reach, ⟨breaks, rfl⟩ | failed⟩ := listed.of_error read
        · have sameLine : c.advance.advance.line = c.line := by simp
          rw [sameLine]
          exact .unclosed atCall closed reach breaks
        · exact .itemFailed atCall closed reach failed

/-- With every match moving forward, a call ends in exactly the outcomes its grammar
gives. -/
theorem call_eq_iff_callOutcome (progressive : d.Progressive) {outcome : Attempt ExprMatch} :
    call d c = outcome ↔ CallOutcome d c outcome := by
  constructor
  · rintro rfl
    exact callOutcome_call progressive c
  · exact call_of_callOutcome progressive

end Parse

/-- A call of a built-in function accepts exactly its grammar, at every nesting level
and whatever the variables are: it declines where no built-in name is followed by
`(`, even a name bound as a variable does not stop it from committing, and from
there it has the built-in's value on the items read up to `)`, or fails with the
built-in's error, for want of `)`, or with the error of reading an item. -/
theorem call_accepts_exactly_its_grammar (order : Order) (bindings : Bindings) (levels : Nat)
    (c : Cursor) (outcome : Attempt ExprMatch) :
    Parse.call (Dispatch.withLevels order bindings levels) c = outcome ↔
      Parse.CallOutcome (Dispatch.withLevels order bindings levels) c outcome :=
  Parse.call_eq_iff_callOutcome (Dispatch.withLevels_progressive order bindings levels)

/-- The line `max(1)` as the scanner reads it, at its first token. -/
def maxOfOne : Cursor where
  stream :=
    { tokens := #[⟨.word, 0, 3, 0, 1, "max", ""⟩, ⟨.lParen, 3, 1, 0, 1, "(", ""⟩,
        ⟨.number, 4, 1, 0, 1, "1", ""⟩, ⟨.rParen, 5, 1, 0, 1, ")", ""⟩]
      lines := #[(0, 4)] }
  index := 0
  start := 0
  stop := 4
  line := 1

/-- With no nesting level left for its argument, the call `max(1)` fails with the
nesting limit: neither for want of `)` nor with an error of `max`. -/
theorem call_fails_with_argument_error_at_nesting_limit :
    Parse.call (Dispatch.withLevels default Bindings.empty 0) maxOfOne =
      .error (.parse (.nestingTooDeep 1)) :=
  (Parse.call_eq_iff_callOutcome (Dispatch.withLevels_progressive default Bindings.empty 0)).mpr
    (.itemFailed (by decide) (by decide) .here rfl)

end Reckon
