import Reckon.Builtin

/-!
Contract: the line a runtime error is reported on is only a label.

Owns:
- the success part of an `Except` (`Except.toOption`) and a simp set that
  computes it through `bind` and `if`;
- that an operator application and a call of a built-in succeed, and with
  which value, whatever line they report on (`BinaryOperator.apply_ok_of_ok`,
  `callBuiltin_ok_of_ok`).

Parsing evaluates every operator and call on the line of its cursor, while a
tree is evaluated on one line given for all of it; the two agree on every
success because of these facts.

Method: the success part of each function is computed by the simp set, in
which every error becomes `none`. The line then appears nowhere, so the success
parts at two lines normalise to one term. Each function has its own such lemma,
and a function's lemma cites those of the functions it calls.

Does not own: which errors arise, or their lines.
-/

namespace Except

variable {ε α β : Type}

@[simp] theorem toOption_ok (a : α) : (Except.ok a : Except ε α).toOption = some a := rfl

@[simp] theorem toOption_error (e : ε) : (Except.error e : Except ε α).toOption = none := rfl

@[simp] theorem toOption_throw (e : ε) : (throw e : Except ε α).toOption = none := rfl

@[simp] theorem toOption_pure (a : α) : (pure a : Except ε α).toOption = some a := rfl

/-- A sequence succeeds when its first step does and the rest succeeds on that value. -/
@[simp] theorem toOption_bind (x : Except ε α) (f : α → Except ε β) :
    (x >>= f).toOption = x.toOption.bind fun a => (f a).toOption := by
  cases x <;> rfl

@[simp] theorem toOption_ite (c : Prop) [Decidable c] (x y : Except ε α) :
    (if c then x else y).toOption = if c then x.toOption else y.toOption := by
  split <;> rfl

theorem toOption_eq_some {x : Except ε α} {a : α} : x.toOption = some a ↔ x = .ok a := by
  cases x <;> simp

theorem toOption_eq_none {x : Except ε α} : x.toOption = none ↔ ∃ e, x = .error e := by
  cases x <;> simp

end Except

namespace Reckon

open Except

/-! ### Success parts of the value conversions -/

theorem exactReal_toOption (n : Int64) (line : Nat) :
    (exactReal n line).toOption =
      if n.toInt.natAbs > maxExactInteger then none else some (Decimal.floatOfInt n.toInt) := by
  simp only [exactReal, toOption_ite, toOption_ok, toOption_error]

/-- A value converts to a real when it is one, or when it is an integer that a
real holds exactly. -/
theorem asReal_toOption (v : Value) (line : Nat) :
    (v.asReal line).toOption =
      match v with
      | .real x => some x
      | .integer n =>
        if n.toInt.natAbs > maxExactInteger then none else some (Decimal.floatOfInt n.toInt)
      | _ => none := by
  cases v <;> simp only [Value.asReal, toOption_ok, toOption_error, exactReal_toOption]

theorem finiteReal_toOption (x : Float) (line : Nat) :
    (finiteReal x line).toOption = if (x.isNaN || x.isInf) = true then none else some (.real x) := by
  simp only [finiteReal, toOption_ite, toOption_ok, toOption_error]

/-! ### Operators -/

theorem checkedInteger_toOption (r : Int) (line : Nat) :
    (checkedInteger r line).toOption =
      if Decimal.int64Min ≤ r ∧ r ≤ Decimal.int64Max then some (.integer (Int64.ofInt r))
      else none := by
  simp only [checkedInteger, toOption_ite, toOption_ok, toOption_error]

theorem Value.promoteToReal_toOption (v other : Value) (line line' : Nat) :
    (v.promoteToReal other line).toOption = (v.promoteToReal other line').toOption := by
  unfold Value.promoteToReal
  split <;> simp only [toOption_bind, toOption_pure, asReal_toOption]

namespace BinaryOperator

theorem valuesEqual_toOption (op : BinaryOperator) (left right : Value) (line line' : Nat) :
    (op.valuesEqual left right line).toOption = (op.valuesEqual left right line').toOption := by
  cases left <;> cases right <;>
    simp only [valuesEqual, toOption_ok, toOption_error, toOption_bind, toOption_pure,
      asReal_toOption]

theorem compareValues_toOption (op : BinaryOperator) (left right : Value) (line line' : Nat) :
    (op.compareValues left right line).toOption =
      (op.compareValues left right line').toOption := by
  cases op
  case equal | notEqual =>
    simp only [compareValues, toOption_bind, valuesEqual_toOption _ left right line line']
  case less | lessEqual | greater | greaterEqual =>
    -- two integers are compared exactly, any other pair of numbers as reals
    simp only [compareValues, toOption_ite, toOption_error]
    split
    · rfl
    · cases left <;> cases right <;> simp only [toOption_ok, toOption_bind, asReal_toOption]
  all_goals rfl

theorem integerArithmetic_toOption (op : BinaryOperator) (a b : Int64) (left right : Value)
    (line line' : Nat) :
    (op.integerArithmetic a b left right line).toOption =
      (op.integerArithmetic a b left right line').toOption := by
  cases op <;>
    simp only [integerArithmetic, checkedInteger_toOption, toOption_ite, toOption_ok,
      toOption_error]

theorem realArithmetic_toOption (op : BinaryOperator) (a b : Float) (left right : Value)
    (line line' : Nat) :
    (op.realArithmetic a b left right line).toOption =
      (op.realArithmetic a b left right line').toOption := by
  cases op <;> simp only [realArithmetic, finiteReal_toOption, toOption_ite, toOption_error]

theorem computeValues_toOption (op : BinaryOperator) (left right : Value) (line line' : Nat) :
    (op.computeValues left right line).toOption =
      (op.computeValues left right line').toOption := by
  unfold computeValues
  split
  case h_1 => exact integerArithmetic_toOption op _ _ _ _ line line'
  case h_5 => rfl
  -- a real with a number: both become reals, and the real operator applies
  all_goals
    simp only [toOption_bind, Value.promoteToReal_toOption _ _ line line']
    congr 1
    funext ⟨l, r⟩
    simp only [asReal_toOption, realArithmetic_toOption _ _ _ _ _ line line']

/-- Whether an operator application succeeds, and its value, do not depend on the
line it reports errors on. -/
theorem apply_toOption (op : BinaryOperator) (a b : Value) (line line' : Nat) :
    (op.apply a b line).toOption = (op.apply a b line').toOption := by
  unfold apply
  split
  · exact compareValues_toOption op a b line line'
  · exact computeValues_toOption op a b line line'

end BinaryOperator

theorem BinaryOperator.apply_ok_of_ok {op : BinaryOperator} {a b v : Value} {line : Nat}
    (applied : op.apply a b line = .ok v) (line' : Nat) : op.apply a b line' = .ok v := by
  rw [← toOption_eq_some] at applied ⊢
  rwa [op.apply_toOption a b line' line]

/-! ### Built-in functions -/

namespace Builtin

theorem scanExtreme_toOption (pickLess : Bool) (line line' : Nat) :
    ∀ (best : Option (Value × Float)) (args : List Value),
      (scanExtreme pickLess line best args).toOption =
        (scanExtreme pickLess line' best args).toOption
  | best, [] => rfl
  | best, arg :: rest => by
    simp only [scanExtreme, toOption_bind, asReal_toOption,
      scanExtreme_toOption pickLess line line']

theorem integralOrReal_toOption (x : Float) (line : Nat) :
    (integralOrReal x line).toOption =
      match exactInteger? x with
      | some n => some (.integer n)
      | none => if (x.isNaN || x.isInf) = true then none else some (.real x) := by
  unfold integralOrReal
  cases exactInteger? x <;> simp only [toOption_ok, finiteReal_toOption]

theorem squareRoot_toOption (args : List Value) (line line' : Nat) :
    (squareRoot args line).toOption = (squareRoot args line').toOption := by
  rcases args with _ | ⟨_ | n | _ | _, rest⟩ <;>
    simp only [squareRoot, firstReal, asReal_toOption, toOption_bind, toOption_ite,
      toOption_throw, toOption_error, finiteReal_toOption, Option.bind_none, Option.bind_some]
  -- what is left is the square root of an integer, taken after the conversion to a real
  congr 1
  funext x
  split
  · rfl
  · cases exactInteger? x.sqrt <;> simp only [toOption_pure, toOption_ite, finiteReal_toOption]

theorem extreme_toOption (pickLess : Bool) (args : List Value) (line line' : Nat) :
    (extreme pickLess args line).toOption = (extreme pickLess args line').toOption := by
  simp only [extreme, toOption_bind, scanExtreme_toOption pickLess line line']
  congr 1
  funext found
  rcases found with _ | ⟨arg, _⟩ <;> rfl

theorem firstReal_toOption (args : List Value) (line line' : Nat) :
    (firstReal args line).toOption = (firstReal args line').toOption := by
  cases args <;> simp only [firstReal, toOption_error, asReal_toOption]

theorem realFunction_toOption (f : Float → Float) (args : List Value) (line line' : Nat) :
    (realFunction f args line).toOption = (realFunction f args line').toOption := by
  simp only [realFunction, toOption_bind, firstReal_toOption args line line', finiteReal_toOption]

theorem roundWith_toOption (rounding : Float → Float) (args : List Value) (line line' : Nat) :
    (roundWith rounding args line).toOption = (roundWith rounding args line').toOption := by
  unfold roundWith
  split
  · rfl
  · simp only [toOption_bind, firstReal_toOption args line line', integralOrReal_toOption]

theorem evaluate_toOption (f : Builtin) (args : List Value) (line line' : Nat) :
    (f.evaluate args line).toOption = (f.evaluate args line').toOption := by
  cases f
  case abs =>
    rcases args with _ | ⟨_ | _ | _ | _, rest⟩ <;>
      simp only [evaluate, checkedInteger_toOption, toOption_ok, toOption_error]
  case sqrt => exact squareRoot_toOption args line line'
  case ln =>
    simp only [evaluate, toOption_bind, firstReal_toOption args line line', toOption_ite,
      toOption_throw, finiteReal_toOption]
  case exp | sin | cos | tan => exact realFunction_toOption _ args line line'
  case round | floor | ceil => exact roundWith_toOption _ args line line'
  case min | max => exact extreme_toOption _ args line line'

end Builtin

/-- Whether a call of a built-in succeeds, and its value, do not depend on the line
it reports errors on. -/
theorem callBuiltin_toOption (name : String) (args : List Value) (line line' : Nat) :
    (callBuiltin name args line).toOption = (callBuiltin name args line').toOption := by
  unfold callBuiltin
  split
  · rfl
  · simp only [toOption_ite, toOption_error, Builtin.evaluate_toOption _ args line line']

theorem callBuiltin_ok_of_ok {name : String} {args : List Value} {v : Value} {line : Nat}
    (called : callBuiltin name args line = .ok v) (line' : Nat) :
    callBuiltin name args line' = .ok v := by
  rw [← toOption_eq_some] at called ⊢
  rwa [callBuiltin_toOption name args line' line]

end Reckon
