import Reckon.Parse.Match
import Reckon.Builtin
import Reckon.Decimal.Read

/-!
Operands: literals, variable references, decimal-comma numbers, groups and
calls of built-in functions.

A number token with a point is a real and one without is a 64-bit integer; a
minus sign directly followed by a number, with no blank between, makes a
negative literal. An integer literal outside the 64-bit range is an overflow.
A reference declines when its name is unbound, so that an unknown word is not
an expression. A decimal comma joins two digit runs with no blanks around the
comma. A group is `(` expression `)`. A call is a built-in name directly
followed by `(`, arguments separated by `,` or `;`, and `)`; once the `(` is
seen the call commits, and a missing `)` is an error.
-/

namespace Reckon.Parse

open Reckon.Decimal

/-- Whether a token text is a run of decimal digits. -/
def isDigitRun (text : String) : Bool :=
  !text.isEmpty && text.toList.all Char.isDigit

/-- The value of a number token, negated when `negative`: a real when it has
a point, otherwise an integer, which overflows outside the 64-bit range. -/
def readNumber (text : String) (negative : Bool) (line : Nat) : Except RuntimeError Value :=
  if text.toList.contains '.' then
    match readFloat? text with
    | some x => .ok (.real (if negative then -x else x))
    | none => .error (.overflow line)
  else
    match readInt64 (if negative then "-" ++ text else text) with
    | .ok n => .ok (.integer n)
    | .error _ => .error (.overflow line)

/-- A literal: `true`, `false`, a text, a number or a negative number. -/
def data (c : Cursor) : Except InterpretError (Option ExprMatch) := do
  let found : Option (Value × Cursor) ←
    match c.kind? with
    | some .trueKw => pure (some (.boolean true, c.advance))
    | some .falseKw => pure (some (.boolean false, c.advance))
    | some .text =>
      let quoted := c.text.toList
      let inner := if quoted.length ≥ 2 then String.ofList ((quoted.drop 1).dropLast) else c.text
      pure (some (.text inner, c.advance))
    | some .number =>
      match readNumber c.text false c.line with
      | .ok value => pure (some (value, c.advance))
      | .error e => throw (.runtime e)
    | some .minus =>
      match c.next? with
      | some number =>
        if number.isAt .number && !number.hasLeadingWhitespace then
          match readNumber number.text true c.line with
          | .ok value => pure (some (value, number.advance))
          | .error e => throw (.runtime e)
        else pure none
      | none => pure none
    | _ => pure none
  match found with
  | some (value, next) =>
    pure (some { node := .literal value (c.spanTo next), value, next, parser := "" })
  | none => pure none

/-- A reference to a bound variable. -/
def reference (bindings : Bindings) (c : Cursor) : Attempt ExprMatch :=
  if c.isAt .word then
    match bindings.get? c.text with
    | some value =>
      let next := c.advance
      .ok (some { node := .reference c.text (c.spanTo next), value, next, parser := "" })
    | none => .ok none
  else .ok none

/-- Whether the cursor is on a number token of digits only. -/
def atDigitRun (c : Cursor) : Bool :=
  c.isAt .number && isDigitRun c.text

/-- Two digit runs joined by a comma with no blanks: the number with the comma
read as a decimal point. -/
def decimalComma (c : Cursor) : Attempt ExprMatch :=
  if !atDigitRun c then .ok none
  else
    let fraction? := (c.next?.filter fun comma => comma.isAt .comma && !comma.hasLeadingWhitespace)
      |>.bind Cursor.next?
      |>.filter fun fraction => atDigitRun fraction && !fraction.hasLeadingWhitespace
    match fraction? with
    | none => .ok none
    | some fraction =>
      match readFloat? (c.text ++ "." ++ fraction.text) with
      | none => .ok none
      | some x =>
        let next := fraction.advance
        .ok (some { node := .literal (.real x) (c.spanTo next), value := .real x, next,
                    parser := "" })

/-- A parenthesised expression. -/
def group (sub : Dispatch) (c : Cursor) : Except InterpretError (Option ExprMatch) := do
  match c.skip? .lParen false with
  | none => pure none
  | some innerStart =>
    let missing : InterpretError := .parse (.expectedClosingParen c.line)
    let some inner ← sub.expression innerStart | throw missing
    let some next := inner.next.skip? .rParen false | throw missing
    pure (some { node := .group inner.node (c.spanTo next), value := inner.value, next,
                 parser := "" })

/-- The items of an argument list from `current` on, each followed by `,` or
`;` and the last by `)`; `bound` is the end of the view and `listStart` the
cursor after `(`. -/
def argumentItems (sub : Dispatch) (listStart : Cursor) (bound : Nat) (current : Cursor)
    (read : List ExprMatch) : Except InterpretError (List ExprMatch × Cursor) :=
  let missing : InterpretError := .parse (.expectedClosingParen listStart.line)
  match sub.expression current with
  | .error e => .error e
  | .ok none => .error missing
  | .ok (some item) =>
    match item.next.kind? with
    | some .comma | some .semicolon =>
      if _moved : current.index < item.next.advance.index ∧ item.next.advance.index ≤ bound then
        argumentItems sub listStart bound item.next.advance (read ++ [item])
      else .error missing
    | some .rParen => .ok (read ++ [item], item.next.advance)
    | _ => .error missing
termination_by bound - current.index
decreasing_by omega

/-- The arguments after `(`: none when `)` follows at once. -/
def arguments (sub : Dispatch) (listStart : Cursor) :
    Except InterpretError (List ExprMatch × Cursor) :=
  match listStart.skip? .rParen false with
  | some after => .ok ([], after)
  | none => argumentItems sub listStart listStart.stop listStart []

/-- A call of a built-in function, evaluated once its arguments are read. -/
def call (sub : Dispatch) (c : Cursor) : Except InterpretError (Option ExprMatch) := do
  if !(c.isAt .word && Builtin.isName c.text) then return none
  let some listStart := c.advance.skip? .lParen false | return none
  let (items, next) ← arguments sub listStart
  match callBuiltin c.text (items.map ExprMatch.value) c.line with
  | .ok value =>
    pure (some { node := .call c.text (items.map ExprMatch.node) (c.spanTo next), value, next,
                 parser := "" })
  | .error e => throw (.runtime e)

end Reckon.Parse
