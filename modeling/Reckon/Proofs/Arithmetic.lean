import Reckon.Operator.Apply

/-!
Contract: arithmetic on integers is exact, and mixing an integer with a real never rounds.

Two integers. Addition, subtraction and multiplication give the integer that their
mathematical result is when it lies in the 64-bit range, and an overflow when it does not
(`IntegerResult`): nothing wraps. Division fails on a zero divisor; where the divisor
divides, it gives the exact quotient, except that the least integer divided by minus one
overflows; every other quotient is a real. The relational operators compare the two as
mathematical integers (`BinaryOperator.holds`), never as reals
(`integer_operations_are_exact`).

An integer and a real. An integer becomes a real only where a real holds it exactly, at a
magnitude of at most `2^53 - 1`. Within that bound every operator acts on the pair, in
either order, as on the real the integer becomes; beyond it every operator overflows. A
number with a boolean or a text is a type mismatch for every operator, and so is any pair
other than two numbers for the ordering and arithmetic operators; the mismatch names the
operator and both types (`mixing_integers_and_reals_never_rounds`).

The crux of the first part is the least integer divided by minus one: its remainder is
zero, so the quotient counts as exact, and only the range check turns it into an overflow.
Every other exact quotient is no larger in magnitude than the dividend.

Owns: `IntegerResult`, `BinaryOperator.holds` and the facts above.
Does not own: the value of a real result, which the binary64 operations decide.
-/

namespace Reckon

open Decimal

/-- The outcome of an integer operation whose mathematical result is `r`: the integer `r`
where it lies in the 64-bit range, an overflow on `line` where it does not. -/
def IntegerResult (r : Int) (line : Nat) (outcome : Except RuntimeError Value) : Prop :=
  (int64Min ≤ r ∧ r ≤ int64Max →
      ∃ n : Int64, n.toInt = r ∧ outcome = .ok (.integer n)) ∧
    (r < int64Min ∨ int64Max < r → outcome = .error (.overflow line))

theorem int64Min_eq : int64Min = -9223372036854775808 := rfl

theorem int64Max_eq : int64Max = 9223372036854775807 := rfl

/-- Every 64-bit integer lies in the 64-bit range. -/
theorem int64_toInt_mem (n : Int64) : int64Min ≤ n.toInt ∧ n.toInt ≤ int64Max := by
  have low := Int64.le_toInt n
  have high := Int64.toInt_lt n
  rw [int64Min_eq, int64Max_eq]
  omega

/-- An integer in the 64-bit range is the integer of the 64-bit integer made from it. -/
theorem toInt_ofInt_of_mem {r : Int} (low : int64Min ≤ r) (high : r ≤ int64Max) :
    (Int64.ofInt r).toInt = r := by
  rw [int64Min_eq] at low
  rw [int64Max_eq] at high
  exact Int64.toInt_ofInt_of_le (by omega) (by omega)

/-- A range check gives exactly the integer result. -/
theorem checkedInteger_result (r : Int) (line : Nat) :
    IntegerResult r line (checkedInteger r line) := by
  constructor
  · rintro ⟨low, high⟩
    exact ⟨Int64.ofInt r, toInt_ofInt_of_mem low high, if_pos ⟨low, high⟩⟩
  · intro outside
    exact if_neg (by omega)

/-- An exact quotient of two 64-bit integers lies in the 64-bit range, except for the least
integer divided by minus one. -/
theorem tdiv_mem_of_dvd {a b : Int64} (divides : b.toInt ∣ a.toInt)
    (notCorner : ¬ (a.toInt = int64Min ∧ b.toInt = -1)) :
    int64Min ≤ a.toInt.tdiv b.toInt ∧ a.toInt.tdiv b.toInt ≤ int64Max := by
  have exact : a.toInt.tdiv b.toInt * b.toInt = a.toInt := Int.tdiv_mul_cancel divides
  have smaller := Int.natAbs_tdiv_le_natAbs a.toInt b.toInt
  have dividend := int64_toInt_mem a
  simp only [int64Min_eq, int64Max_eq] at dividend notCorner ⊢
  -- the quotient is at most the dividend in magnitude; only `2^63` itself is out of range
  by_cases top : a.toInt.tdiv b.toInt = 9223372036854775808
  · rw [top] at exact
    omega
  · omega

namespace BinaryOperator

/-- What a relational operator says of two mathematical integers; no other operator
holds of any. -/
def holds : BinaryOperator → Int → Int → Bool
  | equal, a, b => a == b
  | notEqual, a, b => a != b
  | less, a, b => decide (a < b)
  | lessEqual, a, b => decide (a ≤ b)
  | greater, a, b => decide (b < a)
  | greaterEqual, a, b => decide (b ≤ a)
  | _, _, _ => false

variable (a b : Int64) (line : Nat)

/-- Two 64-bit integers are equal exactly when the integers they stand for are. -/
theorem int64_beq_eq (a b : Int64) : (a == b) = (a.toInt == b.toInt) := by
  by_cases same : a = b
  · simp [same]
  · rw [beq_false_of_ne same, beq_false_of_ne (fun equal => same (Int64.toInt_inj.mp equal))]

/-- A relational operator on two integers compares them as mathematical integers. -/
theorem apply_relational_integers {op : BinaryOperator} (relational : op.isRelational = true) :
    op.apply (.integer a) (.integer b) line = .ok (.boolean (op.holds a.toInt b.toInt)) := by
  cases op
  case equal | notEqual =>
    simp only [apply, compareValues, valuesEqual, holds, int64_beq_eq]
    rfl
  case less | lessEqual | greater | greaterEqual =>
    simp only [apply, compareValues, orderIntegers, holds]
    rfl
  all_goals cases relational

theorem apply_add_integers :
    add.apply (.integer a) (.integer b) line = checkedInteger (a.toInt + b.toInt) line := rfl

theorem apply_subtract_integers :
    subtract.apply (.integer a) (.integer b) line = checkedInteger (a.toInt - b.toInt) line := rfl

theorem apply_multiply_integers :
    multiply.apply (.integer a) (.integer b) line = checkedInteger (a.toInt * b.toInt) line := rfl

theorem apply_divide_by_zero (zero : b.toInt = 0) :
    divide.apply (.integer a) (.integer b) line = .error (.divisionByZero line) :=
  if_pos zero

/-- A divisor that divides gives the quotient, range-checked. -/
theorem apply_divide_of_dvd (nonzero : b.toInt ≠ 0) (divides : b.toInt ∣ a.toInt) :
    divide.apply (.integer a) (.integer b) line =
      checkedInteger (a.toInt.tdiv b.toInt) line := by
  have noRemainder : a.toInt.tmod b.toInt = 0 := Int.tmod_eq_zero_of_dvd divides
  show (if b.toInt = 0 then _ else if a.toInt.tmod b.toInt ≠ 0 then _ else _) = _
  rw [if_neg nonzero, if_neg (fun remainder => remainder noRemainder)]

/-- A divisor that does not divide gives the real quotient. -/
theorem apply_divide_of_not_dvd (nonzero : b.toInt ≠ 0) (notDivides : ¬ b.toInt ∣ a.toInt) :
    divide.apply (.integer a) (.integer b) line =
      .ok (.real (floatOfInt a.toInt / floatOfInt b.toInt)) := by
  have remainder : a.toInt.tmod b.toInt ≠ 0 := mt Int.dvd_iff_tmod_eq_zero.mpr notDivides
  show (if b.toInt = 0 then _ else if a.toInt.tmod b.toInt ≠ 0 then _ else _) = _
  rw [if_neg nonzero, if_pos remainder]

end BinaryOperator

open BinaryOperator in
/-- Integer arithmetic is exact: sums, differences and products are the mathematical ones or
an overflow, quotients are exact, overflow at the least integer over minus one, or real, and
comparisons are those of the mathematical integers. -/
theorem integer_operations_are_exact (a b : Int64) (line : Nat) :
    IntegerResult (a.toInt + b.toInt) line (add.apply (.integer a) (.integer b) line) ∧
    IntegerResult (a.toInt - b.toInt) line (subtract.apply (.integer a) (.integer b) line) ∧
    IntegerResult (a.toInt * b.toInt) line (multiply.apply (.integer a) (.integer b) line) ∧
    (b.toInt = 0 →
      divide.apply (.integer a) (.integer b) line = .error (.divisionByZero line)) ∧
    (b.toInt ≠ 0 → b.toInt ∣ a.toInt → ¬ (a.toInt = int64Min ∧ b.toInt = -1) →
      ∃ q : Int64, q.toInt * b.toInt = a.toInt ∧
        divide.apply (.integer a) (.integer b) line = .ok (.integer q)) ∧
    (a.toInt = int64Min ∧ b.toInt = -1 →
      divide.apply (.integer a) (.integer b) line = .error (.overflow line)) ∧
    (b.toInt ≠ 0 → ¬ b.toInt ∣ a.toInt →
      ∃ x, divide.apply (.integer a) (.integer b) line = .ok (.real x)) ∧
    (∀ op : BinaryOperator, op.isRelational = true →
      op.apply (.integer a) (.integer b) line = .ok (.boolean (op.holds a.toInt b.toInt))) := by
  refine ⟨?add, ?subtract, ?multiply, apply_divide_by_zero a b line, ?exact, ?corner, ?inexact,
    fun _ relational => apply_relational_integers a b line relational⟩
  case add =>
    rw [apply_add_integers]
    exact checkedInteger_result _ line
  case subtract =>
    rw [apply_subtract_integers]
    exact checkedInteger_result _ line
  case multiply =>
    rw [apply_multiply_integers]
    exact checkedInteger_result _ line
  case exact =>
    intro nonzero divides notCorner
    obtain ⟨q, isQuotient, result⟩ :=
      (checkedInteger_result _ line).1 (tdiv_mem_of_dvd divides notCorner)
    refine ⟨q, ?_, (apply_divide_of_dvd a b line nonzero divides).trans result⟩
    rw [isQuotient]
    exact Int.tdiv_mul_cancel divides
  case corner =>
    rintro ⟨least, minusOne⟩
    have divides : b.toInt ∣ a.toInt := by rw [minusOne]; exact Int.neg_dvd.mpr (Int.one_dvd _)
    rw [apply_divide_of_dvd a b line (by omega) divides]
    refine (checkedInteger_result _ line).2 (.inr ?_)
    rw [least, minusOne]
    decide
  case inexact =>
    intro nonzero notDivides
    exact ⟨_, apply_divide_of_not_dvd a b line nonzero notDivides⟩

example : BinaryOperator.divide.apply (.integer (-9223372036854775808)) (.integer (-1)) 7 =
    .error (.overflow 7) := rfl

example : BinaryOperator.add.apply (.integer 9223372036854775807) (.integer 1) 7 =
    .error (.overflow 7) := rfl

/-! ### An integer with a real -/

namespace BinaryOperator

variable {n : Int64} (x : Float) (line : Nat)

theorem apply_of_relational {op : BinaryOperator} (relational : op.isRelational = true)
    (v w : Value) : op.apply v w line = op.compareValues v w line :=
  if_pos relational

theorem apply_of_arithmetic {op : BinaryOperator} (arithmetic : op.isRelational = false)
    (v w : Value) : op.apply v w line = op.computeValues v w line :=
  if_neg (by rw [arithmetic]; exact Bool.false_ne_true)

theorem asReal_real : (Value.real x).asReal line = .ok x := rfl

theorem asReal_integer_of_le (fits : n.toInt.natAbs ≤ maxExactInteger) :
    (Value.integer n).asReal line = .ok (floatOfInt n.toInt) :=
  if_neg (Nat.not_lt.mpr fits)

theorem asReal_integer_of_lt (beyond : maxExactInteger < n.toInt.natAbs) :
    (Value.integer n).asReal line = .error (.overflow line) :=
  if_pos beyond

/-! An integer with a real, in either order, is applied by first converting the integer to a
real: where the conversion gives a real, every operator acts as on that real, and where it
fails, every operator fails with its error. -/

section Conversion

variable {f : Float} {e : RuntimeError}

theorem apply_integer_real_of_converted (converted : (Value.integer n).asReal line = .ok f)
    (op : BinaryOperator) :
    op.apply (.integer n) (.real x) line = op.apply (.real f) (.real x) line := by
  cases op
  case equal | notEqual | less | lessEqual | greater | greaterEqual =>
    rw [apply_of_relational line rfl, apply_of_relational line rfl]
    simp only [compareValues, valuesEqual, converted, asReal_real, Value.isNumber, Bool.not_true,
      Bool.or_self, Bool.false_eq_true, if_false]
  all_goals
    rw [apply_of_arithmetic line rfl, apply_of_arithmetic line rfl]
    simp only [computeValues, Value.promoteToReal, converted, asReal_real, realArithmetic, bind,
      Except.bind, pure, Except.pure]

theorem apply_real_integer_of_converted (converted : (Value.integer n).asReal line = .ok f)
    (op : BinaryOperator) :
    op.apply (.real x) (.integer n) line = op.apply (.real x) (.real f) line := by
  cases op
  case equal | notEqual | less | lessEqual | greater | greaterEqual =>
    rw [apply_of_relational line rfl, apply_of_relational line rfl]
    simp only [compareValues, valuesEqual, converted, asReal_real, Value.isNumber, Bool.not_true,
      Bool.or_self, Bool.false_eq_true, if_false]
  all_goals
    rw [apply_of_arithmetic line rfl, apply_of_arithmetic line rfl]
    simp only [computeValues, Value.promoteToReal, converted, asReal_real, realArithmetic, bind,
      Except.bind, pure, Except.pure]

theorem apply_integer_real_of_failed (failed : (Value.integer n).asReal line = .error e)
    (op : BinaryOperator) : op.apply (.integer n) (.real x) line = .error e := by
  cases op
  case equal | notEqual | less | lessEqual | greater | greaterEqual =>
    rw [apply_of_relational line rfl]
    simp only [compareValues, valuesEqual, failed, Value.isNumber, Bool.not_true, Bool.or_self,
      Bool.false_eq_true, if_false, bind, Except.bind]
  all_goals
    rw [apply_of_arithmetic line rfl]
    simp only [computeValues, Value.promoteToReal, failed, bind, Except.bind]

theorem apply_real_integer_of_failed (failed : (Value.integer n).asReal line = .error e)
    (op : BinaryOperator) : op.apply (.real x) (.integer n) line = .error e := by
  cases op
  case equal | notEqual | less | lessEqual | greater | greaterEqual =>
    rw [apply_of_relational line rfl]
    simp only [compareValues, valuesEqual, failed, asReal_real, Value.isNumber, Bool.not_true,
      Bool.or_self, Bool.false_eq_true, if_false, bind, Except.bind]
  all_goals
    rw [apply_of_arithmetic line rfl]
    simp only [computeValues, Value.promoteToReal, failed, bind, Except.bind]

end Conversion

/-! ### Pairs that are not two numbers -/

variable {v w : Value}

theorem computeValues_of_not_numbers (notBoth : v.isNumber = false ∨ w.isNumber = false)
    (op : BinaryOperator) : op.computeValues v w line = .error (op.mismatch v w line) := by
  cases v <;> cases w <;> simp only [Value.isNumber, Bool.true_eq_false, or_self] at notBoth <;> rfl

theorem valuesEqual_of_one_number (oneNumber : v.isNumber ≠ w.isNumber) (op : BinaryOperator) :
    op.valuesEqual v w line = .error (op.mismatch v w line) := by
  cases v <;> cases w <;> simp only [Value.isNumber, ne_eq, not_true_eq_false] at oneNumber <;> rfl

/-- An ordering or arithmetic operator takes two numbers and nothing else. -/
theorem apply_of_not_numbers {op : BinaryOperator} (notEqualOp : op ≠ equal)
    (notUnequalOp : op ≠ notEqual) (notBoth : v.isNumber = false ∨ w.isNumber = false) :
    op.apply v w line = .error (op.mismatch v w line) := by
  have someFalse : (!v.isNumber || !w.isNumber) = true := by
    rcases notBoth with left | right
    · rw [left]; rfl
    · rw [right, Bool.not_false, Bool.or_true]
  cases op
  case equal => exact absurd rfl notEqualOp
  case notEqual => exact absurd rfl notUnequalOp
  case less | lessEqual | greater | greaterEqual =>
    rw [apply_of_relational line rfl]
    exact if_pos someFalse
  all_goals
    rw [apply_of_arithmetic line rfl]
    exact computeValues_of_not_numbers line notBoth _

/-- A number with a boolean or a text, in either order, is a mismatch for every operator. -/
theorem apply_of_one_number (oneNumber : v.isNumber ≠ w.isNumber) (op : BinaryOperator) :
    op.apply v w line = .error (op.mismatch v w line) := by
  have notBoth : v.isNumber = false ∨ w.isNumber = false := by
    cases hv : v.isNumber
    · exact .inl rfl
    · rw [hv] at oneNumber
      exact .inr (Bool.eq_false_iff.mpr (Ne.symm oneNumber))
  cases op
  case equal | notEqual =>
    rw [apply_of_relational line rfl]
    simp only [compareValues, valuesEqual_of_one_number line oneNumber, bind, Except.bind]
  all_goals exact apply_of_not_numbers line (by decide) (by decide) notBoth

end BinaryOperator

open BinaryOperator in
/-- Mixing integers and reals never rounds: within the exact range an integer acts, in either
order, as the real it becomes, and beyond it every operator overflows. A number paired with
anything but a number is a type mismatch for every operator, and so is any pair but two
numbers for the ordering and arithmetic operators. -/
theorem mixing_integers_and_reals_never_rounds (line : Nat) :
    (∀ (op : BinaryOperator) (n : Int64) (x : Float), n.toInt.natAbs ≤ maxExactInteger →
      op.apply (.integer n) (.real x) line =
          op.apply (.real (floatOfInt n.toInt)) (.real x) line ∧
        op.apply (.real x) (.integer n) line =
          op.apply (.real x) (.real (floatOfInt n.toInt)) line) ∧
    (∀ (op : BinaryOperator) (n : Int64) (x : Float), maxExactInteger < n.toInt.natAbs →
      op.apply (.integer n) (.real x) line = .error (.overflow line) ∧
        op.apply (.real x) (.integer n) line = .error (.overflow line)) ∧
    (∀ (op : BinaryOperator) (v w : Value), v.isNumber ≠ w.isNumber →
      op.apply v w line = .error (op.mismatch v w line)) ∧
    (∀ (op : BinaryOperator) (v w : Value), op ≠ equal → op ≠ notEqual →
      v.isNumber = false ∨ w.isNumber = false →
      op.apply v w line = .error (op.mismatch v w line)) := by
  refine ⟨fun op n x fits => ?_, fun op n x beyond => ?_,
    fun op _ _ oneNumber => apply_of_one_number line oneNumber op,
    fun _ _ _ notEqualOp notUnequalOp notBoth =>
      apply_of_not_numbers line notEqualOp notUnequalOp notBoth⟩
  · -- the conversion succeeds with the real the integer becomes
    have converted := asReal_integer_of_le line fits
    exact ⟨apply_integer_real_of_converted x line converted op,
      apply_real_integer_of_converted x line converted op⟩
  · -- the conversion fails, and so does the operator
    have failed := asReal_integer_of_lt line beyond
    exact ⟨apply_integer_real_of_failed x line failed op,
      apply_real_integer_of_failed x line failed op⟩

end Reckon
