import Reckon.Registry.Ordering
import Reckon.Parse.Dispatch

/-!
Registries: the statement and expression parsers, ordered for each culture.

Building a set of parsers first checks that names are distinct and that every
`before` and `after` name is registered, then sorts one partition per culture
tag that some descriptor names (tags in lower case, in increasing order) and
last the partition of descriptors that apply everywhere. Statements are built
before expressions, and the first error wins.

A culture resolves to the partition of its lower-cased tag, else to that of
its language (the part before the first `-` or `_`), else to the partition
for every culture.
-/

namespace Reckon

variable {ρ : Type}

/-- Parsers registered for one kind of construct, with their orders. -/
structure ParserSet (ρ : Type) where
  parsers : Array (Descriptor ρ)
  partitions : List (String × List Nat)
  fallback : List Nat

/-- Insert into a list of texts kept increasing and free of repeats. -/
def insertTag (tag : String) : List String → List String
  | [] => [tag]
  | t :: rest => if tag < t then tag :: t :: rest else if tag = t then t :: rest
    else t :: insertTag tag rest

/-- The first name that occurs earlier in the list, scanning left to right. -/
def firstDuplicate? : List String → List String → Option String
  | _, [] => none
  | seen, name :: rest => if seen.contains name then some name else firstDuplicate? (name :: seen) rest

/-- The first descriptor with a `before` or `after` name outside `names`, with
that name. -/
def firstUnknownReference? (names : List String) (descriptors : List (Descriptor ρ)) :
    Option (String × String) :=
  descriptors.findSome? fun d =>
    ((d.before ++ d.after).find? fun reference => !names.contains reference).map (d.name, ·)

/-- The first duplicate name, then the first unknown reference. -/
def validateDescriptors (descriptors : List (Descriptor ρ)) : Except RegistryError Unit :=
  let names := descriptors.map Descriptor.name
  match firstDuplicate? [] names with
  | some name => .error (.duplicateParser name)
  | none =>
    match firstUnknownReference? names descriptors with
    | some (parser, reference) => .error (.unknownParser parser reference)
    | none => .ok ()

/-- The lower-cased culture tags of the descriptors that do not apply
everywhere, increasing and without repeats. -/
def cultureTags (descriptors : List (Descriptor ρ)) : List String :=
  descriptors.foldl (fun acc d =>
    if d.isAnyCulture then acc else d.cultures.foldl (fun acc tag => insertTag tag.toLower acc) acc)
    []

namespace ParserSet

/-- Validate descriptors and order every partition. -/
def build (descriptors : List (Descriptor ρ)) : Except RegistryError (ParserSet ρ) := do
  validateDescriptors descriptors
  let parsers := descriptors.toArray
  let indices := List.range descriptors.length
  let membersWhere (keep : Descriptor ρ → Bool) : List Nat :=
    indices.filter fun index => (parsers[index]?.map keep).getD false
  let partitions ← (cultureTags descriptors).mapM fun tag => do
    let order ← stableTopologicalSort tag parsers (membersWhere (·.appliesTo tag))
    pure (tag, order)
  let fallback ← stableTopologicalSort anyCulture parsers (membersWhere Descriptor.isAnyCulture)
  pure { parsers, partitions, fallback }

/-- The order of the parsers for a culture, as indices. -/
def resolve (set : ParserSet ρ) (culture : String) : List Nat :=
  let lower := culture.toLower
  match set.partitions.lookup lower with
  | some order => order
  | none =>
    let chars := lower.toList
    if chars.any (fun c => c == '-' || c == '_') then
      let language := String.ofList (chars.takeWhile fun c => !(c == '-' || c == '_'))
      (set.partitions.lookup language).getD set.fallback
    else set.fallback

/-- The parsers for a culture, in order, with their names. -/
def ordered (set : ParserSet ρ) (culture : String) : List (String × ρ) :=
  (set.resolve culture).filterMap fun index => set.parsers[index]?.map fun d => (d.name, d.rule)

/-- The names of the parsers for a culture, in order. -/
def orderNames (set : ParserSet ρ) (culture : String) : List String :=
  (set.ordered culture).map Prod.fst

end ParserSet

/-- Statement and expression parsers. -/
structure Registry where
  statements : ParserSet StmtRule
  expressions : ParserSet ExprRule

/-- Descriptors of both kinds, before they are checked and ordered. -/
structure RegistryBuilder where
  statements : List (Descriptor StmtRule) := []
  expressions : List (Descriptor ExprRule) := []

/-- The cultures that read a comma between digits as a decimal point. -/
def decimalCommaCultures : List String :=
  ["fr", "de", "es", "it", "pt", "nl"]

/-- The built-in parsers with their constraints: comments and headers first,
then conditions, declarations and the two kinds of calculation; binary
operations before groups, calls, decimal commas (in the cultures that write
them), literals and references. -/
def RegistryBuilder.builtin : RegistryBuilder where
  statements := [
    { name := "ConditionStatement", rule := .condition, after := ["Header"] },
    { name := "VariableDeclaration", rule := .declaration, after := ["ConditionStatement"] },
    { name := "ConditionalExpression", rule := .conditionalExpression,
      after := ["VariableDeclaration", "ConditionStatement"] },
    { name := "NumericalExpression", rule := .numericalExpression,
      after := ["ConditionalExpression"] },
    { name := "Comment", rule := .comment, before := ["ConditionStatement"] },
    { name := "Header", rule := .header, after := ["Comment"] }]
  expressions := [
    { name := "Data", rule := .data, before := ["VariableReference"] },
    { name := "VariableReference", rule := .variableReference },
    { name := "Group", rule := .group, before := ["Function"] },
    { name := "Function", rule := .function, before := ["Data", "VariableReference"] },
    { name := "BinaryOperation", rule := .binaryOperation,
      before := ["Group", "Function", "Data", "VariableReference"] },
    { name := "DecimalComma", rule := .decimalComma, cultures := decimalCommaCultures,
      before := ["Data"], after := ["Function"] }]

/-- Check and order both sets, statements first. -/
def RegistryBuilder.build (b : RegistryBuilder) : Except RegistryError Registry := do
  let statements ← ParserSet.build b.statements
  let expressions ← ParserSet.build b.expressions
  pure { statements, expressions }

/-- The order of both kinds of parser for a culture. -/
def Registry.order (r : Registry) (culture : String) : Order where
  statements := r.statements.ordered culture
  expressions := r.expressions.ordered culture

end Reckon
