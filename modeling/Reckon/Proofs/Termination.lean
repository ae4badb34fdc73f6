import Mathlib.Logic.Function.Iterate
import Reckon.Proofs.Precedence
import Reckon.Proofs.Lines

/-!
Contract: reading stops because of the nesting limit and because every match
moves forward, as in the source; no guard of the definitions ends a loop early.

Nesting: `Order.dispatch` is `maxNestingDepth` steps above `Dispatch.exhausted`
(`Dispatch.withLevels_eq_iterate`), which fails every entry point at once, and
each step hands its parsers the dispatch one level below.

Progress: at every level every expression match advances strictly inside its
view (`Dispatch.withLevels_progressive`, from `Reckon.Proofs.Dispatch`).

Loops: `climb`, `tighten` and `argumentItems` recurse under guards that carry
their termination measure, levels left and then tokens left before `bound`.
Given progress, the guards of `climb` and `argumentItems` always hold, and the
guard of `tighten` is the source's own test that a round read something, so the
definitions run the loops of the source (`ChainLoops`, `ListLoop`).

Owns: `Parse.ChainLoops`, `Parse.ListLoop` and the facts above.
Does not own: progress of the parsers (`Reckon.Proofs.Dispatch`), where a chain
ends (`Reckon.Proofs.Precedence`).
-/

namespace Reckon

namespace Dispatch

/-- The dispatch with `levels` levels left is `levels` steps above the exhausted dispatch. -/
theorem withLevels_eq_iterate (order : Order) (bindings : Bindings) :
    ∀ levels, withLevels order bindings levels = (step order bindings)^[levels] exhausted
  | 0 => rfl
  | levels + 1 => by
    rw [withLevels, withLevels_eq_iterate order bindings levels, Function.iterate_succ_apply']

end Dispatch

namespace Parse

open Cursor

/-- The loops of the binary parser as the source writes them, with no test of
progress: `climb` folds in every operator of at least its level for as long as
one comes and has an operand after it, and `tighten` folds in the operators that
bind more tightly until a round reads nothing more. `operand` reads the operands
inside a view that ends at `bound`. -/
def ChainLoops (operand : Cursor → Attempt ExprMatch) (bound : Nat) : Prop :=
  (∀ p left, left.next.stop = bound →
    climb operand bound p left =
      match operatorAt? left.next with
      | none => .ok left
      | some op =>
        if p ≤ op.precedence then
          match operand left.next.advance with
          | .error e => .error e
          | .ok none => .ok left
          | .ok (some right) =>
            match tighten operand bound op right with
            | .error e => .error e
            | .ok tightened =>
              match combine left op tightened left.next.line with
              | .error e => .error e
              | .ok joined => climb operand bound p joined
        else .ok left) ∧
  ∀ op right, right.next.stop = bound → right.next.index ≤ bound →
    tighten operand bound op right =
      match operatorAt? right.next with
      | none => .ok right
      | some following =>
        if op.precedence < following.precedence then
          match climb operand bound (op.precedence + 1) right with
          | .error e => .error e
          | .ok extended =>
            if extended.next.index = right.next.index then .ok right
            else tighten operand bound op extended
        else .ok right

/-- The loop over the items of an argument list as the source writes it, with no
test of progress: items are read one after another while a `,` or `;` follows,
up to `)`. -/
def ListLoop (sub : Dispatch) : Prop :=
  ∀ listStart current bound read, current.stop = bound →
    argumentItems sub listStart bound current read =
      match sub.expression current with
      | .error e => .error e
      | .ok none => .error (.parse (.expectedClosingParen listStart.line))
      | .ok (some item) =>
        match item.next.kind? with
        | some .comma | some .semicolon =>
          argumentItems sub listStart bound item.next.advance (read ++ [item])
        | some .rParen => .ok (read ++ [item], item.next.advance)
        | _ => .error (.parse (.expectedClosingParen listStart.line))

variable {operand : Cursor → Attempt ExprMatch}

/-- With operands that advance, no progress guard of `climb` or `tighten` cuts a loop
short: an operand read after an operator ends further on inside the view, and so
does the operand joined from it; where `tighten` stops, its round read nothing. -/
theorem chainLoops_of_advances (advances : ∀ p m, operand p = .ok (some m) → p.Advances m.next)
    (bound : Nat) : ChainLoops operand bound := by
  refine ⟨fun p left atBound => ?_, fun op right atBound inside => ?_⟩
  · rw [climb.eq_1 operand bound p left]
    cases onOperator : operatorAt? left.next with
    | none => rfl
    | some op =>
      dsimp only
      by_cases binds : p ≤ op.precedence
      · rw [if_pos binds, if_pos binds]
        cases read : operand left.next.advance with
        | error e => rfl
        | ok result =>
          cases result with
          | none => rfl
          | some right =>
            dsimp only
            -- the operand read after the operator ends further on, inside the view
            have toRight := advances_past_operator advances onOperator read
            rw [dif_pos ⟨toRight.index_lt, atBound ▸ toRight.le_stop⟩]
            cases tightenedOk : tighten operand bound op right with
            | error e => rfl
            | ok tightened =>
              dsimp only
              cases joinedOk : combine left op tightened left.next.line with
              | error e => rfl
              | ok joined =>
                dsimp only
                -- the joined operand ends where the tightened right operand ends
                have toTightened := tighten_reaches advances toRight.inside tightenedOk
                have joinedNext := (combine_eq_ok joinedOk).2.1
                have moved : left.next.index < joined.next.index := by
                  rw [joinedNext]
                  exact Nat.lt_of_lt_of_le toRight.index_lt toTightened.index_le
                have within : joined.next.index ≤ bound := by
                  rw [joinedNext, ← atBound, ← toRight.stop_eq]
                  exact toTightened.le_stop
                rw [dif_pos ⟨moved, within⟩]
      · rw [if_neg binds, if_neg binds]
  · rw [tighten.eq_1 operand bound op right]
    cases operatorAt? right.next with
    | none => rfl
    | some following =>
      dsimp only
      by_cases tighter : op.precedence < following.precedence
      · rw [if_pos tighter, if_pos tighter]
        cases extendedOk : climb operand bound (op.precedence + 1) right with
        | error e => rfl
        | ok extended =>
          dsimp only
          -- the extended operand ends at or after the right operand, inside the view
          have toExtended := climb_reaches advances (atBound ▸ inside) extendedOk
          by_cases same : extended.next.index = right.next.index
          · rw [dif_neg (fun moved => Nat.ne_of_lt moved.1 same.symm), if_pos same]
          · rw [dif_pos ⟨Nat.lt_of_le_of_ne toExtended.index_le (Ne.symm same),
              atBound ▸ toExtended.le_stop⟩, if_neg same]
      · rw [if_neg tighter, if_neg tighter]

/-- With every match moving forward, the separator after an item lies inside the view,
further on than where the item started. -/
theorem separator_inside {sub : Dispatch} {current : Cursor} {bound : Nat} {item : ExprMatch}
    (progressive : sub.Progressive) (atBound : current.stop = bound)
    (parsed : sub.expression current = .ok (some item)) {kind : TokenKind}
    (onSeparator : item.next.kind? = some kind) :
    current.index < item.next.advance.index ∧ item.next.advance.index ≤ bound := by
  have toSeparator := (progressive.expression _ _ parsed).trans
    (advances_advance (index_lt_stop_of_kind onSeparator))
  exact ⟨toSeparator.index_lt, atBound ▸ toSeparator.le_stop⟩

/-- With a dispatch whose expression matches advance, no progress guard of
`argumentItems` cuts the list short: every item, and the separator after it, moves
the cursor forward inside the view. -/
theorem listLoop_of_progressive {sub : Dispatch} (progressive : sub.Progressive) : ListLoop sub := by
  intro listStart current bound read atBound
  rw [argumentItems.eq_1 sub listStart bound current read]
  cases parsed : sub.expression current with
  | error e => rfl
  | ok result =>
    cases result with
    | none => rfl
    | some item =>
      dsimp only
      cases separator : item.next.kind? with
      | none => rfl
      | some kind =>
        cases kind
        case comma | semicolon =>
          rw [dif_pos (separator_inside progressive atBound parsed separator)]
        all_goals rfl

end Parse

/-- Reading a document stops for the reasons the source gives, whatever parsers a
registry holds, under whatever names and constraints. The dispatch it reads with
sits `maxNestingDepth` levels above the exhausted dispatch, which fails every entry
point at once with NestingTooDeep, and each parser is given the dispatch one level
deeper, so no chain of nested dispatches is longer. At every level every expression
match moves its cursor strictly forward inside its view, and the loops of the binary
parser and of argument lists run as the source writes them, with no exit other than
the source's. A pass that is not cancelled returns its result. -/
theorem reading_stops_at_nesting_limit_and_by_progress (r : Registry) (culture : String)
    (bindings : Bindings) :
    let order := r.order culture
    order.dispatch bindings = (Dispatch.step order bindings)^[maxNestingDepth] Dispatch.exhausted ∧
      (∀ c, Dispatch.exhausted.expression c = .error (.parse (.nestingTooDeep c.line)) ∧
        (∀ after, Dispatch.exhausted.operand after c = .error (.parse (.nestingTooDeep c.line))) ∧
        Dispatch.exhausted.statement c = .error (.parse (.nestingTooDeep c.line))) ∧
      (∀ levels, let d := Dispatch.withLevels order bindings levels
        d.Progressive ∧ (∀ after bound, Parse.ChainLoops (d.operand after) bound) ∧
          Parse.ListLoop d) ∧
      ∀ text, ∃ result, r.interpret text culture false = .ok result := by
  intro order
  refine ⟨Dispatch.withLevels_eq_iterate order bindings maxNestingDepth,
    fun c => ⟨rfl, fun _ => rfl, rfl⟩, fun levels => ?_, fun text => ⟨_, interpret_eq r text culture⟩⟩
  have progressive := Dispatch.withLevels_progressive order bindings levels
  exact ⟨progressive, fun after => Parse.chainLoops_of_advances (progressive.operand after),
    Parse.listLoop_of_progressive progressive⟩

end Reckon
