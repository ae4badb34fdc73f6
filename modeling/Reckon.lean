import Reckon.Text.Identifier
import Reckon.Token
import Reckon.Token.Scan
import Reckon.Token.Stream
import Reckon.Token.Cursor
import Reckon.Token.Navigation
import Reckon.Decimal.Binary
import Reckon.Decimal.Shortest
import Reckon.Decimal.Round
import Reckon.Decimal.Read
import Reckon.Error
import Reckon.Value
import Reckon.Operator
import Reckon.Operator.Apply
import Reckon.Builtin
import Reckon.Bindings
import Reckon.Expr
import Reckon.Expr.Eval
import Reckon.Parse.Match
import Reckon.Parse.Operand
import Reckon.Parse.Binary
import Reckon.Parse.Statement
import Reckon.Parse.Rule
import Reckon.Parse.Dispatch
import Reckon.Parse.Interpretation
import Reckon.Registry.Descriptor
import Reckon.Registry.Ordering
import Reckon.Registry
import Reckon.Document
import Reckon.Document.Workers
import Reckon.Main
import Reckon.Proofs.Dispatch
import Reckon.Proofs.ErrorLine
import Reckon.Proofs.Statements
import Reckon.Proofs.Interpretation
import Reckon.Proofs.Evaluation
import Reckon.Proofs.Grammar
import Reckon.Proofs.Precedence
import Reckon.Proofs.Lines
import Reckon.Proofs.FastPath
import Reckon.Proofs.LineBreaks
import Reckon.Proofs.Views
import Reckon.Proofs.Termination
import Reckon.Proofs.TopologicalSort
import Reckon.Proofs.RegistryBuild
import Reckon.Proofs.CommaScan
import Reckon.Proofs.JoinedTokens
import Reckon.Proofs.DecimalComma
import Reckon.Proofs.NewestResult
import Reckon.Proofs.Tiling
import Reckon.Proofs.CursorViews
import Reckon.Proofs.Spans
import Reckon.Proofs.LeastOrder
import Reckon.Proofs.OneLine
import Reckon.Proofs.Rendering
import Reckon.Proofs.NestedGroups
import Reckon.Proofs.NestingLimit
import Reckon.Proofs.ViewStart
import Reckon.Proofs.Conditions
import Reckon.Proofs.Arithmetic
import Reckon.Proofs.IntegerLiterals
import Reckon.Proofs.CallGrammar
import Reckon.Proofs.FloatOrder
import Reckon.Proofs.Extremes
import Reckon.Proofs.VariableStore
import Reckon.Proofs.Declarations
import Reckon.Proofs.PointForComma
