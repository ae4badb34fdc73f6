/-!
The ways interpreting a document can fail, and the text of each failure.

Errors are causes: each constructor records what went wrong and the line it
went wrong on, and `message` is the one place that words them. Parse errors
are about the shape of a line, runtime errors about the values in it, registry
errors about a set of parsers that cannot be ordered. A cancelled pass is an
error of its own that no line records.
-/

namespace Reckon

/-- A line that does not have the shape of a statement. -/
inductive ParseError where
  /-- No statement parser accepts the line. -/
  | unrecognizedStatement (line : Nat)
  /-- A statement was read but tokens other than a comment follow it. -/
  | unexpectedTrailingTokens (token : String) (line : Nat)
  /-- A group or an argument list is not closed by `)`. -/
  | expectedClosingParen (line : Nat)
  /-- The keyword `then` or `else` is not followed by a statement. -/
  | missingBranch (keyword : String) (line : Nat)
  /-- Parsers were nested deeper than the nesting limit. -/
  | nestingTooDeep (line : Nat)
deriving DecidableEq, Repr

/-- A value that an operation cannot work with. -/
inductive RuntimeError where
  /-- An operator applied to operands of types it does not take. -/
  | typeMismatch (operator left right : String) (line : Nat)
  /-- A number was needed. -/
  | expectedNumber (line : Nat)
  /-- A division by zero. -/
  | divisionByZero (line : Nat)
  /-- A result outside the range of its type, or an integer too large to be
  read exactly as a real. -/
  | overflow (line : Nat)
  /-- A call of a function that does not exist. -/
  | unknownFunction (name : String) (line : Nat)
  /-- A call with a number of arguments the function does not take. -/
  | argumentCountMismatch (name : String) (expected found : Nat) (line : Nat)
  /-- An argument outside the domain of the function. -/
  | invalidArgument (details : String) (line : Nat)
deriving DecidableEq, Repr

/-- A set of parsers that cannot be put in order. -/
inductive RegistryError where
  /-- The before/after constraints of one culture form a cycle through these parsers. -/
  | orderingCycle (culture : String) (parsers : List String)
  /-- Two parsers of one set have the same name. -/
  | duplicateParser (name : String)
  /-- A parser is ordered relative to a name that no parser of its set has. -/
  | unknownParser (parser reference : String)
deriving DecidableEq, Repr

/-- Why a line, or a whole pass, failed. -/
inductive InterpretError where
  | parse (error : ParseError)
  | runtime (error : RuntimeError)
  /-- The pass was cancelled before it finished. -/
  | cancelled
deriving DecidableEq, Repr

/-- The prefix of every message about a line. -/
def errorHeading (line : Nat) : String :=
  "Error on line " ++ toString line ++ ": "

namespace ParseError

/-- The message of a parse error. -/
def message : ParseError → String
  | unrecognizedStatement line => errorHeading line ++ "Unrecognized statement."
  | unexpectedTrailingTokens token line =>
    errorHeading line ++ "Extra tokens after statement. Check your input: " ++ token
  | expectedClosingParen line =>
    errorHeading line ++ "Expected closing parenthesis ')' but none found."
  | missingBranch keyword line =>
    errorHeading line ++ "Expected a statement after '" ++ keyword ++ "'."
  | nestingTooDeep line => errorHeading line ++ "Expression is nested too deeply."

/-- The name of the kind of a parse error. -/
def kindName : ParseError → String
  | unrecognizedStatement .. => "UnrecognizedStatement"
  | unexpectedTrailingTokens .. => "UnexpectedTrailingTokens"
  | expectedClosingParen .. => "ExpectedClosingParen"
  | missingBranch .. => "MissingBranch"
  | nestingTooDeep .. => "NestingTooDeep"

end ParseError

namespace RuntimeError

/-- The message of a runtime error. -/
def message : RuntimeError → String
  | typeMismatch operator left right line =>
    errorHeading line ++ "Type error: cannot apply '" ++ operator ++ "' to " ++ left ++ " and " ++
      right ++ "."
  | expectedNumber line => errorHeading line ++ "Expected number."
  | divisionByZero line => errorHeading line ++ "Division by zero."
  | overflow line => errorHeading line ++ "Overflow while trying to compute result."
  | unknownFunction name line => errorHeading line ++ "Unknown function '" ++ name ++ "'."
  | argumentCountMismatch name expected found line =>
    errorHeading line ++ "Argument count mismatch for '" ++ name ++ "': expected " ++
      toString expected ++ ", found " ++ toString found ++ "."
  | invalidArgument details line => errorHeading line ++ "Invalid argument: " ++ details ++ "."

/-- The name of the kind of a runtime error. -/
def kindName : RuntimeError → String
  | typeMismatch .. => "TypeMismatch"
  | expectedNumber .. => "ExpectedNumber"
  | divisionByZero .. => "DivisionByZero"
  | overflow .. => "Overflow"
  | unknownFunction .. => "UnknownFunction"
  | argumentCountMismatch .. => "ArgumentCountMismatch"
  | invalidArgument .. => "InvalidArgument"

end RuntimeError

namespace RegistryError

/-- The message of a registry error. -/
def message : RegistryError → String
  | orderingCycle culture parsers =>
    "Parser ordering for culture '" ++ culture ++ "' contains a cycle between: " ++
      ", ".intercalate parsers ++ "."
  | duplicateParser name => "Parser '" ++ name ++ "' is registered more than once."
  | unknownParser parser reference =>
    "Parser '" ++ parser ++ "' is ordered relative to unknown parser '" ++ reference ++ "'."

/-- The name of the kind of a registry error. -/
def kindName : RegistryError → String
  | orderingCycle .. => "OrderingCycle"
  | duplicateParser .. => "DuplicateParser"
  | unknownParser .. => "UnknownParser"

end RegistryError

namespace InterpretError

/-- The message of an interpretation error. -/
def message : InterpretError → String
  | parse error => error.message
  | runtime error => error.message
  | cancelled => "Interpretation was cancelled."

/-- The name of the kind of an interpretation error. -/
def kindName : InterpretError → String
  | parse error => error.kindName
  | runtime error => error.kindName
  | cancelled => "Cancelled"

end InterpretError

end Reckon
