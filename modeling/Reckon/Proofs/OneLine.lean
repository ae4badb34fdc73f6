import Reckon.Proofs.CursorViews
import Reckon.Proofs.Dispatch

/-!
Contract: every text that a pass can put on a line of its result is one line.

A text is one line when it holds no line feed (`OneLine`). The scanner puts a
line feed into no token but a line break (`Token.scanFrom_text_no_lineFeed`),
because the longest match never looks past the first line feed after it
(`Token.front_taken_no_lineFeed`). So the token under a cursor in a line of a
scanned text is one line (`Cursor.InLine.text_oneLine`).

Values: booleans, integers and reals are written on one line, a text as it is
(`Value.oneLine_iff`). Errors: a message is one line exactly when the texts it
quotes are (`InterpretError.oneLine_iff`); the rest of it is fixed words and
numbers.

Operators and built-in functions have one lemma each that speaks of both their
outcomes (`BinaryOperator.apply_satisfies`, `callBuiltin_satisfies`): the value
is a boolean, a number or one of the arguments, and an error quotes only the
operator, the types of its operands, the name the function was called by, or a
real written out.

Owns: `OneLine`, `Value.OneLine`, `RuntimeError.OneLine`,
`InterpretError.OneLine`, the texts an error quotes, and the facts above.
Does not own: what the parsers read (`Reckon.Proofs.Rendering`).
-/

set_option autoImplicit false

namespace Reckon

/-! ### Texts on one line -/

/-- A text without a line feed, which renders as one line. -/
def OneLine (s : String) : Prop :=
  '\n' ∉ s.toList

instance (s : String) : Decidable (OneLine s) :=
  inferInstanceAs (Decidable (_ ∉ _))

@[simp] theorem oneLine_append {s t : String} : OneLine (s ++ t) ↔ OneLine s ∧ OneLine t := by
  simp [OneLine, String.toList_append, not_or]

@[simp] theorem oneLine_ofList {cs : List Char} : OneLine (String.ofList cs) ↔ '\n' ∉ cs := by
  simp [OneLine, String.toList_ofList]

/-- Decimal digits hold no line feed. -/
theorem feed_not_mem_toDigits (n : Nat) : '\n' ∉ Nat.toDigits 10 n := fun member =>
  absurd (Nat.isDigit_of_mem_toDigits (by decide) (by decide) member) (by decide)

@[simp] theorem oneLine_repr (n : Nat) : OneLine n.repr := by
  simp [OneLine, feed_not_mem_toDigits]

@[simp] theorem oneLine_intRepr (n : Int) : OneLine n.repr := by
  rw [Int.repr_eq_if]
  split <;> simp +decide

@[simp] theorem oneLine_errorHeading (line : Nat) : OneLine (errorHeading line) := by
  simp +decide [errorHeading]

theorem oneLine_positional (d : Decimal.Scaled) : OneLine d.positional := by
  unfold Decimal.Scaled.positional
  have digits := feed_not_mem_toDigits d.digits
  dsimp only
  split
  · simp +decide [List.mem_replicate]
  split
  · have taken : ∀ k, '\n' ∉ (Nat.toDigits 10 d.digits).take k := fun _ member =>
      digits (List.mem_of_mem_take member)
    have dropped : ∀ k, '\n' ∉ (Nat.toDigits 10 d.digits).drop k := fun _ member =>
      digits (List.mem_of_mem_drop member)
    simp +decide [taken, dropped]
  · simp +decide [List.mem_replicate]

@[simp] theorem oneLine_realText (x : Float) : OneLine (realText x) := by
  unfold realText
  dsimp only
  split
  · decide
  · have sign : OneLine (if Decimal.signBit x then "-" else "") := by split <;> decide
    split
    · simp +decide [sign]
    · split <;> simp +decide [sign, oneLine_positional]

/-! ### Token texts -/

namespace Token

/-- A match that is no line break takes no line feed: the longest match never
looks past the first line feed after it, and the line feed itself, alone or after
a carriage return, is a line break. -/
theorem front_taken_no_lineFeed {c : Char} {rest : List Char} {kind : TokenKind} {extra : Nat}
    (found : front c rest = (some kind, extra)) (notBreak : kind ≠ .newLine) :
    '\n' ∉ c :: rest.take extra := by
  intro member
  rcases List.mem_cons.mp member with feed | inRest
  · rw [← feed, show front '\n' rest = (some .newLine, 0) from rfl] at found
    exact notBreak (by cases found; rfl)
  · obtain ⟨before, after, split, noFeed⟩ := exists_first_lineFeed (List.mem_of_mem_take inRest)
    by_cases carriage : c = '\r' ∧ before = []
    · obtain ⟨rfl, rfl⟩ := carriage
      rw [split, List.nil_append, show front '\r' ('\n' :: after) = (some .newLine, 1) from rfl] at found
      exact notBreak (by cases found; rfl)
    · have sameFront := front_append_lineFeed c before after
        fun isCarriage empty => carriage ⟨isCarriage, empty⟩
      have extraLe : extra ≤ before.length := by
        have := front_extra_le c before
        rwa [← sameFront, ← split, found] at this
      rw [split, List.take_append_of_le_length extraLe] at inRest
      exact noFeed (List.mem_of_mem_take inRest)

/-- Every token the scanner reads, other than a line break, holds no line feed. -/
theorem scanFrom_text_no_lineFeed (input : List Char) (offset line : Nat) (gap : List Char) :
    ∀ token ∈ scanFrom input offset line gap, token.kind ≠ .newLine → '\n' ∉ token.text.toList := by
  match input with
  | [] => simp [scanFrom.eq_1]
  | c :: rest =>
    rcases found : front c rest with ⟨_ | kind, extra⟩
    · rw [scanFrom_cons_skip offset line gap found]
      exact scanFrom_text_no_lineFeed _ _ _ _
    · rw [scanFrom_cons_token offset line gap found]
      intro token member notBreak
      rcases List.mem_cons.mp member with rfl | later
      · rw [String.toList_ofList]
        exact front_taken_no_lineFeed found notBreak
      · exact scanFrom_text_no_lineFeed _ _ _ _ token later notBreak
termination_by input.length
decreasing_by all_goals (simp only [List.length_drop, List.length_cons]; omega)

end Token

/-- The token under a cursor in a line of a scanned text is one line. -/
theorem Cursor.InLine.text_oneLine {source : String} {c : Cursor}
    (inLine : c.InLine (TokenStream.ofSource source)) : OneLine c.text := by
  unfold Cursor.text
  rcases inLine.token? with none | ⟨token, found, notBreak, -⟩
  · rw [none]
    decide
  · rw [found]
    have member : token ∈ Token.scan source := by
      unfold Cursor.token? at found
      split at found
      · rw [← TokenStream.ofSource_tokens_toList, ← inLine.stream_eq]
        exact Array.mem_toList_iff.2 (Array.mem_of_getElem? found)
      · cases found
    exact Token.scanFrom_text_no_lineFeed _ _ _ _ token member notBreak

/-! ### Values -/

/-- A value whose text in results is one line. -/
def Value.OneLine (v : Value) : Prop :=
  Reckon.OneLine v.display

/-- Booleans, integers and reals are written on one line; a text as it is. -/
theorem Value.oneLine_iff {v : Value} : v.OneLine ↔ ∀ s, v = .text s → Reckon.OneLine s := by
  cases v
  case boolean b => cases b <;> simp +decide [Value.OneLine]
  all_goals simp [Value.OneLine, display]

namespace Value

@[simp] theorem oneLine_boolean (b : Bool) : (boolean b).OneLine :=
  oneLine_iff.2 (by simp)

@[simp] theorem oneLine_integer (n : Int64) : (integer n).OneLine :=
  oneLine_iff.2 (by simp)

@[simp] theorem oneLine_real (x : Float) : (real x).OneLine :=
  oneLine_iff.2 (by simp)

@[simp] theorem oneLine_text (s : String) : (text s).OneLine ↔ Reckon.OneLine s :=
  oneLine_iff.trans (by simp)

end Value

/-! ### Error messages -/

/-- The texts a runtime error quotes in its message. -/
@[simp] def RuntimeError.quoted : RuntimeError → List String
  | typeMismatch operator left right _ => [operator, left, right]
  | unknownFunction name _ | argumentCountMismatch name _ _ _ => [name]
  | invalidArgument details _ => [details]
  | expectedNumber _ | divisionByZero _ | overflow _ => []

/-- The texts a parse error quotes in its message. -/
@[simp] def ParseError.quoted : ParseError → List String
  | unexpectedTrailingTokens token _ => [token]
  | missingBranch keyword _ => [keyword]
  | unrecognizedStatement _ | expectedClosingParen _ | nestingTooDeep _ => []

/-- The texts an interpretation error quotes in its message. -/
@[simp] def InterpretError.quoted : InterpretError → List String
  | parse error => error.quoted
  | runtime error => error.quoted
  | cancelled => []

/-- A runtime error whose message is one line. -/
def RuntimeError.OneLine (e : RuntimeError) : Prop :=
  Reckon.OneLine e.message

/-- An interpretation error whose message is one line. -/
def InterpretError.OneLine (e : InterpretError) : Prop :=
  Reckon.OneLine e.message

/-- A runtime error's message is one line exactly when the texts it quotes are. -/
@[simp] theorem RuntimeError.oneLine_iff {e : RuntimeError} :
    e.OneLine ↔ ∀ s ∈ e.quoted, Reckon.OneLine s := by
  cases e <;> simp +decide [RuntimeError.OneLine, message, quoted, and_assoc]

/-- A parse error's message is one line exactly when the texts it quotes are. -/
theorem ParseError.oneLine_message {e : ParseError} :
    Reckon.OneLine e.message ↔ ∀ s ∈ e.quoted, Reckon.OneLine s := by
  cases e <;> simp +decide [message, quoted]

@[simp] theorem InterpretError.oneLine_message {e : InterpretError} :
    Reckon.OneLine e.message ↔ e.OneLine :=
  Iff.rfl

/-- An error's message is one line exactly when the texts it quotes are. -/
@[simp] theorem InterpretError.oneLine_iff {e : InterpretError} :
    e.OneLine ↔ ∀ s ∈ e.quoted, Reckon.OneLine s := by
  cases e
  case parse error => exact ParseError.oneLine_message
  case runtime error => exact RuntimeError.oneLine_iff
  case cancelled => simp +decide [InterpretError.OneLine]


/-! ### Operators -/

open Except

section Operators

variable (line : Nat) {P : Float → Prop}

@[simp] theorem exactReal_satisfies (all : ∀ x, P x) (n : Int64) :
    (exactReal n line).Satisfies P RuntimeError.OneLine := by
  unfold exactReal
  split <;> simp [all]

@[simp] theorem Value.asReal_satisfies (all : ∀ x, P x) (v : Value) :
    (v.asReal line).Satisfies P RuntimeError.OneLine := by
  unfold Value.asReal
  split <;> simp [all]

@[simp] theorem finiteReal_satisfies (x : Float) :
    (finiteReal x line).Satisfies Value.OneLine RuntimeError.OneLine := by
  unfold finiteReal
  split <;> simp

@[simp] theorem checkedInteger_satisfies (r : Int) :
    (checkedInteger r line).Satisfies Value.OneLine RuntimeError.OneLine := by
  unfold checkedInteger
  split <;> simp

@[simp] theorem Value.oneLine_typeName (v : Value) : Reckon.OneLine v.typeName := by
  cases v <;> simp +decide [Value.typeName]

@[simp] theorem BinaryOperator.oneLine_symbol (op : BinaryOperator) : Reckon.OneLine op.symbol := by
  cases op <;> decide

namespace BinaryOperator

variable (op : BinaryOperator) (left right : Value)

@[simp] theorem mismatch_eq :
    op.mismatch left right line = .typeMismatch op.symbol left.typeName right.typeName line :=
  rfl

@[simp] theorem valuesEqual_satisfies {Q : Bool → Prop} (all : ∀ b, Q b) :
    (op.valuesEqual left right line).Satisfies Q RuntimeError.OneLine := by
  unfold valuesEqual
  split <;> simp [all]

@[simp] theorem compareValues_satisfies :
    (op.compareValues left right line).Satisfies Value.OneLine RuntimeError.OneLine := by
  unfold compareValues
  split
  case h_3 | h_4 | h_5 | h_6 =>
    split
    · simp
    · split <;> simp
  all_goals simp

@[simp] theorem integerArithmetic_satisfies (a b : Int64) :
    (op.integerArithmetic a b left right line).Satisfies Value.OneLine RuntimeError.OneLine := by
  unfold integerArithmetic
  split
  case h_4 =>
    split
    · simp
    · split <;> simp
  all_goals simp

@[simp] theorem realArithmetic_satisfies (a b : Float) :
    (op.realArithmetic a b left right line).Satisfies Value.OneLine RuntimeError.OneLine := by
  unfold realArithmetic
  split
  case h_4 => split <;> simp
  all_goals simp

@[simp] theorem computeValues_satisfies :
    (op.computeValues left right line).Satisfies Value.OneLine RuntimeError.OneLine := by
  unfold computeValues
  split <;> simp [Value.promoteToReal]

/-- An operator's value is a boolean or a number, and its errors quote only the
operator and the types of its operands. -/
theorem apply_satisfies :
    (op.apply left right line).Satisfies Value.OneLine RuntimeError.OneLine := by
  unfold apply
  split <;> simp

end BinaryOperator

end Operators

/-! ### Built-in functions -/

namespace Builtin

section Arguments

variable (line : Nat) {args : List Value}

@[simp] theorem firstReal_satisfies {P : Float → Prop} (all : ∀ x, P x) (args : List Value) :
    (firstReal args line).Satisfies P RuntimeError.OneLine := by
  cases args <;> simp [firstReal, all]

@[simp] theorem integralOrReal_satisfies (x : Float) :
    (integralOrReal x line).Satisfies Value.OneLine RuntimeError.OneLine := by
  unfold integralOrReal
  split <;> simp

/-- The best argument found so far is always one of the arguments. -/
theorem scanExtreme_satisfies (pickLess : Bool) :
    ∀ (best : Option (Value × Float)) (args : List Value), (∀ p ∈ best, p.1.OneLine) →
      (∀ a ∈ args, a.OneLine) →
      (scanExtreme pickLess line best args).Satisfies (fun found => ∀ p ∈ found, p.1.OneLine)
        RuntimeError.OneLine
  | best, [], bestOneLine, _ => bestOneLine
  | best, arg :: rest, bestOneLine, argsOneLine => by
    have restOneLine : ∀ a ∈ rest, a.OneLine := fun a member =>
      argsOneLine a (List.mem_cons_of_mem arg member)
    simp only [scanExtreme, satisfies_bind]
    refine Value.asReal_satisfies line (fun value => ?_) arg
    -- whether or not the argument is better, the new best is an argument
    have kept : ∀ better : Bool, ∀ p ∈ (if better then some (arg, value) else best), p.1.OneLine := by
      intro better
      cases better
      case false => exact bestOneLine
      case true => simpa using argsOneLine arg List.mem_cons_self
    exact scanExtreme_satisfies pickLess _ rest (kept _) restOneLine

theorem extreme_satisfies (pickLess : Bool) (argsOneLine : ∀ a ∈ args, a.OneLine) :
    (extreme pickLess args line).Satisfies Value.OneLine RuntimeError.OneLine := by
  simp only [extreme, satisfies_bind]
  refine (scanExtreme_satisfies line pickLess none args (by simp) argsOneLine).mono ?_ (fun _ => id)
  intro found foundOneLine
  cases found
  case none => simp
  case some p => simpa using foundOneLine p rfl

@[simp] theorem squareRoot_satisfies :
    (squareRoot args line).Satisfies Value.OneLine RuntimeError.OneLine := by
  unfold squareRoot
  simp only [satisfies_bind]
  refine firstReal_satisfies line (fun x => ?_) args
  split
  · simp +decide
  · split
    · split
      · split <;> simp
      · simp
    · simp

@[simp] theorem roundWith_satisfies (rounding : Float → Float) :
    (roundWith rounding args line).Satisfies Value.OneLine RuntimeError.OneLine := by
  unfold roundWith
  split <;> simp

@[simp] theorem realFunction_satisfies (f : Float → Float) :
    (realFunction f args line).Satisfies Value.OneLine RuntimeError.OneLine := by
  simp [realFunction]

theorem evaluate_satisfies (f : Builtin) (argsOneLine : ∀ a ∈ args, a.OneLine) :
    (f.evaluate args line).Satisfies Value.OneLine RuntimeError.OneLine := by
  cases f
  case abs => rcases args with _ | ⟨_ | _ | _ | _, rest⟩ <;> simp [evaluate]
  case ln =>
    simp only [evaluate, satisfies_bind]
    refine firstReal_satisfies line (fun x => ?_) args
    split <;> simp +decide
  case min | max => exact extreme_satisfies line _ argsOneLine
  all_goals simp [evaluate]

end Arguments

end Builtin

/-- A number literal's value is a number, and the error it fails with is an overflow. -/
theorem Parse.readNumber_satisfies (text : String) (negative : Bool) (line : Nat) :
    (Parse.readNumber text negative line).Satisfies Value.OneLine RuntimeError.OneLine := by
  unfold Parse.readNumber
  split
  · split <;> simp
  · split <;> simp

/-- A call's value is a number or one of its arguments, and its errors quote only
the name it was called by or a number. -/
theorem callBuiltin_satisfies {name : String} {args : List Value} (line : Nat)
    (nameOneLine : OneLine name) (argsOneLine : ∀ a ∈ args, a.OneLine) :
    (callBuiltin name args line).Satisfies Value.OneLine RuntimeError.OneLine := by
  unfold callBuiltin
  split
  · simpa using nameOneLine
  · split
    · exact Builtin.evaluate_satisfies line _ argsOneLine
    · simpa using nameOneLine

end Reckon
