import Reckon.Proofs.Arithmetic
import Reckon.Proofs.CommaScan

/-!
Contract: integer literals are read exactly over the whole 64-bit range.

A run of decimal digits stands for the number `digitsValue` gives it, leading zeros and all.
The literal parser reads a run as that integer when it is at most `2^63 - 1`, and a minus
sign with a run right against it as the negated integer when the run is at most `2^63`, so
the least integer has a literal of its own. Beyond those bounds it fails with an overflow on
its line; it never wraps and never reads a run as a real. A minus sign with blanks after it
is no literal (`integer_literals_are_read_exactly`).

The crux is that the sign is read together with the digits. The digits are accumulated
towards the sign they carry (`accumulateDigits_signed`), so the bound checked at each digit
is that of the signed number. Every digit moves the partial value away from zero, so a run
fails exactly when its whole value is out of range, and a negative run reaches one further
than a positive one.

Owns: `Decimal.signed`, `Decimal.digitStep`, `literalAttempt`, `LiteralResult` and the facts
above.
Does not own: where a literal may stand in an operator chain (`Reckon.Proofs.Precedence`).
-/

namespace Reckon

open Decimal

namespace Decimal

/-- A magnitude with a sign: negated when `negative`. -/
def signed (negative : Bool) (magnitude : Nat) : Int :=
  if negative then -(magnitude : Int) else magnitude

@[simp] theorem signed_false (magnitude : Nat) : signed false magnitude = magnitude := rfl

@[simp] theorem signed_true (magnitude : Nat) : signed true magnitude = -(magnitude : Int) := rfl

/-- One more digit read into a value: ten times the value, plus the digit. -/
def digitStep (acc : Nat) (c : Char) : Nat :=
  10 * acc + (c.toNat - '0'.toNat)

theorem digitsValue_eq_foldl (cs : List Char) : digitsValue cs = cs.foldl digitStep 0 := rfl

/-- Reading more digits never makes a value smaller. -/
theorem le_foldl_digitStep (cs : List Char) (acc : Nat) : acc ≤ cs.foldl digitStep acc := by
  induction cs generalizing acc with
  | nil => exact Nat.le_refl acc
  | cons c rest inductionHypothesis =>
    have step : acc ≤ digitStep acc c := by unfold digitStep; omega
    exact Nat.le_trans step (inductionHypothesis (digitStep acc c))

/-- A signed value outside the 64-bit range stays outside as more digits are read: every
digit moves it further from zero. -/
theorem foldl_digitStep_outside {negative : Bool} (rest : List Char) {acc : Nat}
    (outside : ¬ (int64Min ≤ signed negative acc ∧ signed negative acc ≤ int64Max)) :
    ¬ (int64Min ≤ signed negative (rest.foldl digitStep acc) ∧
      signed negative (rest.foldl digitStep acc) ≤ int64Max) := by
  have grows := le_foldl_digitStep rest acc
  cases negative <;>
    simp only [signed_false, signed_true, int64Min_eq, int64Max_eq] at outside ⊢ <;> omega

/-- One digit of a signed run: the partial value moves one digit further from zero, and the
run fails as soon as it leaves the 64-bit range. -/
theorem accumulateDigits_cons {c : Char} (digit : c.isDigit = true) (negative : Bool)
    (rest : List Char) (acc : Nat) :
    accumulateDigits negative (c :: rest) (signed negative acc) =
      if signed negative (digitStep acc c) > int64Max then .error .tooLarge
      else if signed negative (digitStep acc c) < int64Min then .error .tooSmall
      else accumulateDigits negative rest (signed negative (digitStep acc c)) := by
  have next : (if negative then 10 * signed negative acc - ((c.toNat - '0'.toNat : Nat) : Int)
      else 10 * signed negative acc + ((c.toNat - '0'.toNat : Nat) : Int)) =
      signed negative (digitStep acc c) := by
    cases negative <;> simp only [signed_true, signed_false, digitStep, if_true, if_false,
      Bool.false_eq_true] <;> omega
  simp only [accumulateDigits, digit, Bool.not_true, Bool.false_eq_true, if_false]
  rw [next]

/-- A signed run of digits is accumulated to its signed value when that lies in the 64-bit
range, and fails otherwise, on the side its sign points to. -/
theorem accumulateDigits_signed (negative : Bool) (cs : List Char) (acc : Nat)
    (digits : ∀ d ∈ cs, d.isDigit = true)
    (inRange : int64Min ≤ signed negative acc ∧ signed negative acc ≤ int64Max) :
    accumulateDigits negative cs (signed negative acc) =
      if int64Min ≤ signed negative (cs.foldl digitStep acc) ∧
          signed negative (cs.foldl digitStep acc) ≤ int64Max then
        .ok (signed negative (cs.foldl digitStep acc))
      else .error (if negative then .tooSmall else .tooLarge) := by
  induction cs generalizing acc with
  | nil => exact (if_pos inRange).symm
  | cons c rest inductionHypothesis =>
    have restDigits : ∀ d ∈ rest, d.isDigit = true := fun d member => digits d (.tail c member)
    have bounds : int64Min = -9223372036854775808 ∧ int64Max = 9223372036854775807 :=
      ⟨rfl, rfl⟩
    rw [accumulateDigits_cons (digits c (.head rest)), List.foldl_cons]
    by_cases tooLarge : signed negative (digitStep acc c) > int64Max
    · -- only a positive run grows past the greatest integer, and its whole value with it
      have positive : negative = false := by
        cases negative
        · rfl
        · simp only [signed_true] at tooLarge
          omega
      subst positive
      have outside := foldl_digitStep_outside rest
        (fun inRange => absurd inRange.2 (Int.not_le.mpr tooLarge))
      rw [if_pos tooLarge, if_neg outside, if_neg Bool.false_ne_true]
    · rw [if_neg tooLarge]
      by_cases tooSmall : signed negative (digitStep acc c) < int64Min
      · -- only a negative run falls below the least integer, and its whole value with it
        have isNegative : negative = true := by
          cases negative
          · simp only [signed_false] at tooSmall
            omega
          · rfl
        subst isNegative
        have outside := foldl_digitStep_outside rest
          (fun inRange => absurd inRange.1 (Int.not_le.mpr tooSmall))
        rw [if_pos tooSmall, if_neg outside, if_pos rfl]
      · rw [if_neg tooSmall]
        exact inductionHypothesis (digitStep acc c) restDigits ⟨by omega, by omega⟩

/-- A run that starts with a digit carries no sign. -/
theorem splitSign_of_digit {c : Char} (digit : c.isDigit = true) (rest : List Char) :
    splitSign (c :: rest) = (false, c :: rest) := by
  unfold splitSign
  split
  next rest' isMinus =>
    cases isMinus
    exact absurd digit (by decide)
  next rest' isPlus =>
    cases isPlus
    exact absurd digit (by decide)
  next => rfl

/-- A run of digits, with a minus sign in front when `negative`, reads as its signed value
when that lies in the 64-bit range, and fails otherwise. -/
theorem readInt64_digitRun {text : String} (run : Parse.isDigitRun text = true)
    (negative : Bool) :
    readInt64 (if negative then "-" ++ text else text) =
      if int64Min ≤ signed negative (digitsValue text.toList) ∧
          signed negative (digitsValue text.toList) ≤ int64Max then
        .ok (Int64.ofInt (signed negative (digitsValue text.toList)))
      else .error (if negative then .tooSmall else .tooLarge) := by
  obtain ⟨c, ds, chars, cDigit, dsDigits⟩ := Token.isDigitRun_toList run
  have allDigits : ∀ d ∈ c :: ds, d.isDigit = true := by
    intro d member
    rcases List.mem_cons.mp member with isFirst | later
    · rw [isFirst]
      exact cDigit
    · exact dsDigits d later
  have accumulated := accumulateDigits_signed negative (c :: ds) 0 allDigits
    (by cases negative <;> decide)
  rw [show signed negative 0 = 0 by cases negative <;> rfl] at accumulated
  -- the sign read is the minus in front, if any, and the digits after it are the run
  have signRead : splitSign (if negative then "-" ++ text else text).toList =
      (negative, c :: ds) := by
    cases negative
    case false =>
      rw [if_neg Bool.false_ne_true, chars]
      exact splitSign_of_digit cDigit ds
    case true =>
      rw [if_pos rfl, String.toList_append, chars]
      rfl
  have nonEmpty : (if negative then "-" ++ text else text).toList ≠ [] := by
    cases negative
    case false => rw [if_neg Bool.false_ne_true, chars]; exact List.cons_ne_nil c ds
    case true => rw [if_pos rfl, String.toList_append, chars]; exact List.cons_ne_nil '-' _
  unfold readInt64
  split
  next empty => exact absurd empty nonEmpty
  next read notEmpty =>
    simp only [signRead, List.isEmpty_cons, Bool.false_eq_true, if_false, accumulated,
      digitsValue_eq_foldl, chars]
    by_cases inRange : int64Min ≤ signed negative ((c :: ds).foldl digitStep 0) ∧
        signed negative ((c :: ds).foldl digitStep 0) ≤ int64Max
    · rw [if_pos inRange, if_pos inRange]
      rfl
    · rw [if_neg inRange, if_neg inRange]
      rfl

end Decimal


/-- Leading zeros count for nothing. -/
example : digitsValue "0042".toList = 42 := by decide

namespace Parse

/-- A run of digits holds no point, so it is never read as a real. -/
theorem isDigitRun_no_point {text : String} (run : isDigitRun text = true) :
    text.toList.contains '.' = false := by
  obtain ⟨c, ds, chars, cDigit, dsDigits⟩ := Token.isDigitRun_toList run
  rw [chars]
  apply Bool.eq_false_iff.mpr
  intro hasPoint
  rcases List.mem_cons.mp (List.contains_iff_mem.mp hasPoint) with isFirst | later
  · rw [← isFirst] at cDigit
    exact absurd cDigit (by decide)
  · exact absurd (dsDigits '.' later) (by decide)

/-- A number token of digits, negated when `negative`, reads as the range check of its signed
value. -/
theorem readNumber_digitRun {text : String} (run : isDigitRun text = true) (negative : Bool)
    (line : Nat) :
    readNumber text negative line =
      checkedInteger (signed negative (digitsValue text.toList)) line := by
  unfold readNumber checkedInteger
  rw [if_neg (by rw [isDigitRun_no_point run]; exact Bool.false_ne_true),
    readInt64_digitRun run negative]
  by_cases inRange : int64Min ≤ signed negative (digitsValue text.toList) ∧
      signed negative (digitsValue text.toList) ≤ int64Max
  · rw [if_pos inRange, if_pos inRange]
  · rw [if_neg inRange, if_neg inRange]

/-- The attempt of the literal parser once it has read a value from `c` up to `next`: the
literal with that value, or the value's error. -/
def literalAttempt (c next : Cursor) : Except RuntimeError Value → Attempt ExprMatch
  | .ok value => .ok (some { node := .literal value (c.spanTo next), value, next, parser := "" })
  | .error e => .error (.runtime e)

/-- The outcome of reading, from `c` up to `next`, an integer literal whose mathematical value
is `r`: the literal `r` where `r` lies in the 64-bit range, an overflow on the line of `c`
where it does not. -/
def LiteralResult (c next : Cursor) (r : Int) (outcome : Attempt ExprMatch) : Prop :=
  (int64Min ≤ r ∧ r ≤ int64Max → ∃ n : Int64, n.toInt = r ∧
      outcome = .ok (some
        { node := .literal (.integer n) (c.spanTo next), value := .integer n, next,
          parser := "" })) ∧
    (r < int64Min ∨ int64Max < r → outcome = .error (.runtime (.overflow c.line)))

/-- A range-checked value read as a literal is the literal of its integer, or an overflow. -/
theorem literalAttempt_checkedInteger (c next : Cursor) (r : Int) :
    LiteralResult c next r (literalAttempt c next (checkedInteger r c.line)) := by
  obtain ⟨inside, outside⟩ := checkedInteger_result r c.line
  constructor
  · intro inRange
    obtain ⟨n, isValue, checked⟩ := inside inRange
    exact ⟨n, isValue, by rw [checked]; rfl⟩
  · intro outOfRange
    rw [outside outOfRange]
    rfl

variable {c number : Cursor}

theorem data_at_number (onNumber : c.kind? = some .number) :
    data c = literalAttempt c c.advance (readNumber c.text false c.line) := by
  simp only [data, onNumber]
  cases readNumber c.text false c.line <;> rfl

theorem data_at_attached_minus (onMinus : c.kind? = some .minus)
    (following : c.next? = some number)
    (attached : (number.isAt .number && !number.hasLeadingWhitespace) = true) :
    data c = literalAttempt c number.advance (readNumber number.text true c.line) := by
  simp only [data, onMinus, following, attached, if_true]
  cases readNumber number.text true c.line <;> rfl

theorem data_at_detached_minus (onMinus : c.kind? = some .minus)
    (following : c.next? = some number) (blank : number.hasLeadingWhitespace = true) :
    data c = .ok none := by
  simp only [data, onMinus, following, blank, Bool.not_true, Bool.and_false,
    Bool.false_eq_true, if_false]
  rfl

end Parse

open Parse in
/-- Integer literals are read exactly: a run of digits as its value up to `2^63 - 1`, a minus
sign right against a run as the negated value down to `-2^63`, each an overflow beyond; and a
minus sign with blanks after it is no literal. -/
theorem integer_literals_are_read_exactly (c : Cursor) :
    (c.kind? = some .number → isDigitRun c.text = true →
      LiteralResult c c.advance (digitsValue c.text.toList) (data c)) ∧
    (∀ number : Cursor, c.kind? = some .minus → c.next? = some number →
      number.isAt .number = true → number.hasLeadingWhitespace = false →
      isDigitRun number.text = true →
      LiteralResult c number.advance (-(digitsValue number.text.toList : Int)) (data c)) ∧
    (∀ number : Cursor, c.kind? = some .minus → c.next? = some number →
      number.hasLeadingWhitespace = true → data c = .ok none) := by
  refine ⟨fun onNumber run => ?_, fun number onMinus following onNumber tight run => ?_,
    fun _ onMinus following blank => data_at_detached_minus onMinus following blank⟩
  · rw [data_at_number onNumber, readNumber_digitRun run false]
    exact literalAttempt_checkedInteger c c.advance _
  · have attached : (number.isAt .number && !number.hasLeadingWhitespace) = true := by
      rw [onNumber, tight]
      rfl
    rw [data_at_attached_minus onMinus following attached, readNumber_digitRun run true]
    exact literalAttempt_checkedInteger c number.advance _

end Reckon
