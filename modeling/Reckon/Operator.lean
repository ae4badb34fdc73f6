import Reckon.Token

/-!
Binary operators: the ten infix operators, their symbols and their binding
strength.

Relational operators bind weakest (precedence 1), then addition and
subtraction (2), then multiplication and division (3). The token kind of an
operator determines it; `=` is not one. How an operator acts on values is
`Reckon.Operator.Apply`.
-/

namespace Reckon

/-- An infix operator. -/
inductive BinaryOperator where
  | equal
  | notEqual
  | less
  | lessEqual
  | greater
  | greaterEqual
  | add
  | subtract
  | multiply
  | divide
deriving DecidableEq, Repr, Inhabited

namespace BinaryOperator

/-- Every operator. -/
def all : List BinaryOperator :=
  [equal, notEqual, less, lessEqual, greater, greaterEqual, add, subtract, multiply, divide]

/-- How an operator is written. -/
def symbol : BinaryOperator → String
  | equal => "=="
  | notEqual => "!="
  | less => "<"
  | lessEqual => "<="
  | greater => ">"
  | greaterEqual => ">="
  | add => "+"
  | subtract => "-"
  | multiply => "*"
  | divide => "/"

/-- The operator written as `symbol`, if there is one. -/
def ofSymbol? (symbol : String) : Option BinaryOperator :=
  all.find? fun op => op.symbol == symbol

/-- Binding strength: relational 1, additive 2, multiplicative 3. -/
def precedence : BinaryOperator → Nat
  | equal | notEqual | less | lessEqual | greater | greaterEqual => 1
  | add | subtract => 2
  | multiply | divide => 3

/-- Whether an operator compares its operands. -/
def isRelational (op : BinaryOperator) : Bool :=
  op.precedence == 1

/-- Whether an operator computes a number. -/
def isArithmetic (op : BinaryOperator) : Bool :=
  !op.isRelational

/-- The operator a token kind stands for. -/
def ofKind? : TokenKind → Option BinaryOperator
  | .plus => some add
  | .minus => some subtract
  | .star => some multiply
  | .slash => some divide
  | .equalEqual => some equal
  | .bangEqual => some notEqual
  | .less => some less
  | .lessEqual => some lessEqual
  | .greater => some greater
  | .greaterEqual => some greaterEqual
  | _ => none

theorem precedence_le_three (op : BinaryOperator) : op.precedence ≤ 3 := by
  cases op <;> decide

end BinaryOperator

end Reckon
