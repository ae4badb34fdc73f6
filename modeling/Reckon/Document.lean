import Reckon.Registry
import Reckon.Parse.Interpretation

/-!
Documents: interpreting a text line by line.

Each line is read as one statement by the registry's statement parsers for the
culture. A line with no tokens is empty; a line that no parser accepts is
unrecognized; a statement followed by anything but a comment fails with the
first extra token. A line that fails does not stop the lines after it.
Variables declared on a line are visible to the lines below it; a declaration
is kept even when extra tokens after it make its line fail.

A pass keeps one `Interpretation` for all its lines (`Interp.lines`); `readLine` and
`readLines` compute the same outcomes from the variables alone.

A pass whose cancellation was requested before it started yields no result.
The rendered result has one line of text per document line: nothing for an
empty line, the value for a value and the message for an error.
-/

namespace Reckon

/-- The outcome of one line. -/
inductive LineResult where
  | value (v : Value)
  | empty
  | failed (error : InterpretError)

/-- The text of a line's outcome in the rendered result. -/
def LineResult.display : LineResult → String
  | .value v => v.display
  | .empty => ""
  | .failed error => error.message

/-- One line of an interpreted document: its number from one, its outcome and
the parser that read it (none for empty and failed lines). -/
structure LineOutcome where
  line : Nat
  result : LineResult
  parser : Option String

/-- An interpreted document: the outcome of every line and the final
variables. -/
structure DocumentResult where
  lines : List LineOutcome
  bindings : Bindings

namespace DocumentResult

/-- The line numbers of the failed lines. -/
def errorLines (d : DocumentResult) : List Nat :=
  d.lines.filterMap fun outcome =>
    match outcome.result with
    | .failed _ => some outcome.line
    | _ => none

/-- One line of text per document line, joined by line breaks. -/
def render (d : DocumentResult) : String :=
  "\n".intercalate (d.lines.map fun outcome => outcome.result.display)

end DocumentResult

/-- Read one line at its start cursor: the outcome and the parser, and the
declaration that reading it made. -/
def readLine (order : Order) (bindings : Bindings) (c : Cursor) :
    (LineResult × Option String) × Option (String × Value) :=
  if c.atEnd then ((.empty, none), none)
  else
    match (order.dispatch bindings).statement c with
    | .error e => ((.failed e, none), none)
    | .ok none => ((.failed (.parse (.unrecognizedStatement c.line)), none), none)
    | .ok (some found) =>
      if !found.next.atEnd && !found.next.isAt .comment then
        ((.failed (.parse (.unexpectedTrailingTokens found.next.text c.line)), none),
          found.declares)
      else
        let result := match found.value with
          | some v => LineResult.value v
          | none => LineResult.empty
        ((result, some found.parser), found.declares)

/-- Read the lines from index `index` on, under `bindings`. -/
def readLines (order : Order) (stream : TokenStream) (bindings : Bindings) :
    List Nat → List LineOutcome × Bindings
  | [] => ([], bindings)
  | index :: rest =>
    match stream.line? index with
    | none => ([], bindings)
    | some c =>
      let ((result, parser), declares) := readLine order bindings c
      let (outcomes, final) := readLines order stream (bindings.apply declares) rest
      ({ line := index + 1, result, parser } :: outcomes, final)

/-- One line of a pass at its start cursor: the statement's value and parser. A line with no
tokens reads nothing; the statement must be followed by nothing but a comment. -/
def Interp.line (entries : Interp.Entries) (c : Cursor) : Interp (Option Value × Option String) := do
  if c.atEnd then return (none, none)
  let some found ← entries.statement c | throw (.parse (.unrecognizedStatement c.line))
  if !found.next.atEnd && !found.next.isAt .comment then
    throw (.parse (.unexpectedTrailingTokens found.next.text c.line))
  pure (found.value, some found.parser)

/-- The outcome a pass records for a line. -/
def LineResult.ofAttempt : Except InterpretError (Option Value × Option String) →
    LineResult × Option String
  | .ok (some v, parser) => (.value v, parser)
  | .ok (none, parser) => (.empty, parser)
  | .error e => (.failed e, none)

/-- The lines with the given indices, read in one pass; a failed line is recorded and the
pass goes on with the next. -/
def Interp.lines (order : Order) (stream : TokenStream) :
    List Nat → StateM Interpretation (List LineOutcome)
  | [] => pure []
  | index :: rest =>
    match stream.line? index with
    | none => pure []
    | some c => do
      let (result, parser) := LineResult.ofAttempt (← (Interp.line order.entries c).run)
      let outcomes ← Interp.lines order stream rest
      pure ({ line := index + 1, result, parser } :: outcomes)

/-- Interpret a document in a culture, in one pass that starts with no variables. A pass
cancelled before it starts fails with `cancelled`. -/
def Registry.interpret (r : Registry) (text culture : String) (cancelled : Bool) :
    Except InterpretError DocumentResult :=
  if cancelled then .error .cancelled
  else
    let stream := TokenStream.ofSource text
    let (lines, final) :=
      (Interp.lines (r.order culture) stream (List.range stream.lineCount)).run
        { bindings := Bindings.empty }
    .ok { lines, bindings := final.bindings }

/-- The value of the first line of a text, read in a pass of its own. -/
def Registry.evaluateLine (r : Registry) (text culture : String) :
    Except InterpretError (Option Value) :=
  match (TokenStream.ofSource text).line? 0 with
  | none => .ok none
  | some c =>
    Except.map Prod.fst
      ((Interp.line (r.order culture).entries c).run.run { bindings := Bindings.empty }).1

/-- A session that reinterprets its text on every change and publishes the
result of a pass only when no newer pass has published before it. -/
structure Session where
  generation : Nat := 0
  published : Option (Nat × DocumentResult) := none

namespace Session

/-- Publish the result of pass `generation`, unless a newer pass already did. -/
def publish (s : Session) (generation : Nat) (result : DocumentResult) : Session :=
  match s.published with
  | some (newest, _) => if newest < generation then { s with published := some (generation, result) } else s
  | none => { s with published := some (generation, result) }

/-- A new text: start the next pass, run it to the end and publish it. -/
def textChanged (s : Session) (r : Registry) (culture text : String) : Session :=
  let generation := s.generation + 1
  let s := { s with generation }
  match r.interpret text culture false with
  | .ok result => s.publish generation result
  | .error _ => s

/-- The newest published result. -/
def latest (s : Session) : Option DocumentResult :=
  s.published.map Prod.snd

end Session

/-- Where a traced parse starts: a statement or an expression, optionally in
the view cut before a token kind, or an operand after a named parser. -/
inductive TraceEntry where
  | statement (stop : Option TokenKind)
  | expression (stop : Option TokenKind)
  | operand (after : String)

/-- What a traced parse read. -/
inductive Traced where
  | statement (found : StmtMatch)
  | expression (found : ExprMatch)

/-- One entry point of a pass at a cursor. -/
def TraceEntry.run (entries : Interp.Entries) (c : Cursor) : TraceEntry → Interp (Option Traced)
  | .statement (some kind) => (·.map .statement) <$> entries.statementUntil c kind
  | .statement none => (·.map .statement) <$> entries.statement c
  | .expression (some kind) => (·.map .expression) <$> entries.expressionUntil c kind
  | .expression none => (·.map .expression) <$> entries.expression c
  | .operand after => (·.map .expression) <$> entries.operand after c

/-- Parse at the start of each line with one entry point, in one pass. -/
def Interp.traceLines (order : Order) (entry : TraceEntry) (stream : TokenStream) :
    List Nat → StateM Interpretation (List (Attempt Traced))
  | [] => pure []
  | index :: rest =>
    match stream.line? index with
    | none => pure []
    | some c => do
      let attempt ← (entry.run order.entries c).run
      let results ← Interp.traceLines order entry stream rest
      pure (attempt :: results)

/-- Trace a whole text in a culture: each line's attempt and the variables the pass ends with. -/
def Registry.trace (r : Registry) (text culture : String) (entry : TraceEntry) :
    List (Attempt Traced) × Bindings :=
  let stream := TokenStream.ofSource text
  let (results, final) :=
    (Interp.traceLines (r.order culture) entry stream (List.range stream.lineCount)).run
      { bindings := Bindings.empty }
  (results, final.bindings)

end Reckon
