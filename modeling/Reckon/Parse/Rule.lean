import Reckon.Parse.Operand
import Reckon.Parse.Binary
import Reckon.Parse.Statement

/-!
The parse functions a registry can hold, by name.

An expression rule and a statement rule each name one of the parse functions
of this library; `run` applies it at a cursor, given the current bindings and
the entry points one nesting level deeper. The binary rule reads its operands
with the parsers registered after the one named `BinaryOperation`.
-/

namespace Reckon

/-- A parse function for expressions. -/
inductive ExprRule where
  | binaryOperation
  | group
  | function
  | decimalComma
  | data
  | variableReference
deriving DecidableEq, Repr, Inhabited

/-- A parse function for statements. -/
inductive StmtRule where
  | comment
  | header
  | condition
  | declaration
  | conditionalExpression
  | numericalExpression
deriving DecidableEq, Repr, Inhabited

namespace ExprRule

/-- Every expression rule. -/
def all : List ExprRule :=
  [binaryOperation, group, function, decimalComma, data, variableReference]

/-- The name of a rule, which is also the name it is registered under in the
built-in registry. -/
def name : ExprRule → String
  | binaryOperation => "BinaryOperation"
  | group => "Group"
  | function => "Function"
  | decimalComma => "DecimalComma"
  | data => "Data"
  | variableReference => "VariableReference"

/-- The rule with the given name. -/
def ofName? (name : String) : Option ExprRule :=
  all.find? fun rule => rule.name == name

/-- Apply the rule at a cursor. -/
def run (rule : ExprRule) (bindings : Bindings) (sub : Dispatch) (c : Cursor) :
    Attempt ExprMatch :=
  match rule with
  | binaryOperation => Parse.binaryOperation (sub.operand binaryOperation.name) c
  | group => Parse.group sub c
  | function => Parse.call sub c
  | decimalComma => Parse.decimalComma c
  | data => Parse.data c
  | variableReference => Parse.reference bindings c

end ExprRule

namespace StmtRule

/-- Every statement rule. -/
def all : List StmtRule :=
  [comment, header, condition, declaration, conditionalExpression, numericalExpression]

/-- The name of a rule, which is also the name it is registered under in the
built-in registry. -/
def name : StmtRule → String
  | comment => "Comment"
  | header => "Header"
  | condition => "ConditionStatement"
  | declaration => "VariableDeclaration"
  | conditionalExpression => "ConditionalExpression"
  | numericalExpression => "NumericalExpression"

/-- The rule with the given name. -/
def ofName? (name : String) : Option StmtRule :=
  all.find? fun rule => rule.name == name

/-- Apply the rule at a cursor. -/
def run (rule : StmtRule) (sub : Dispatch) (c : Cursor) : Attempt StmtMatch :=
  match rule with
  | comment => Parse.comment c
  | header => Parse.header c
  | condition => Parse.condition sub c
  | declaration => Parse.declaration sub c
  | conditionalExpression => Parse.conditionalExpression sub c
  | numericalExpression => Parse.numericalExpression sub c

end StmtRule

end Reckon
