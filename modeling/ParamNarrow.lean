import ParamNarrow.Text.Alphabetic
import ParamNarrow.Text.UpperCase
import ParamNarrow.Text.Offset
import ParamNarrow.Text.LineMap
import ParamNarrow.Diagnostic
import ParamNarrow.Diagnostic.Render
import ParamNarrow.Narrowing.Name
import ParamNarrow.Token.Kind
import ParamNarrow.Token.Chars
import ParamNarrow.Token.Scanner
import ParamNarrow.Token.Session
import ParamNarrow.Syntax.Node
import ParamNarrow.Syntax.Walk
import ParamNarrow.Syntax.Visit
import ParamNarrow.Syntax.Parser.Cursor
import ParamNarrow.Syntax.Parser.Bindings
import ParamNarrow.Syntax.Parser.Types
import ParamNarrow.Syntax.Parser.Expressions
import ParamNarrow.Syntax.Parser.Statements
import ParamNarrow.Syntax.Parser.File
import ParamNarrow.Print.Piece
import ParamNarrow.Print.Layout
import ParamNarrow.Print.Printer
import ParamNarrow.Binding.Table
import ParamNarrow.Binding.Shape
import ParamNarrow.Narrowing.Reads
import ParamNarrow.Narrowing.Decision
import ParamNarrow.Narrowing.Rewrite
import ParamNarrow.Narrowing.Run
import ParamNarrow.Narrowing.Inspect
import ParamNarrow.Cli.Config
import ParamNarrow.Cli.Args
import ParamNarrow.Cli.Report
import ParamNarrow.Cli.Run
import ParamNarrow.Cli.Workspace
import ParamNarrow.Main
import ParamNarrow.Proofs.Occurrence
import ParamNarrow.Proofs.FieldNames
import ParamNarrow.Proofs.Decisions
import ParamNarrow.Proofs.Reads
import ParamNarrow.Proofs.Projection
import ParamNarrow.Proofs.Frame
import ParamNarrow.Proofs.FieldSignatures
import ParamNarrow.Proofs.LiteralProjection
import ParamNarrow.Proofs.ResolutionWalk
import ParamNarrow.Proofs.ScannerProgress
import ParamNarrow.Proofs.ParserProgress
import ParamNarrow.Proofs.Agree.Types
import ParamNarrow.Proofs.Agree.Expressions
import ParamNarrow.Proofs.Agree.Statements
import ParamNarrow.Proofs.Agree.Levels
import ParamNarrow.Proofs.Agree.Rounds
import ParamNarrow.Proofs.TextSplits
import ParamNarrow.Proofs.ReadBack
import ParamNarrow.Proofs.ScannerSteps
import ParamNarrow.Proofs.ScannerTiling
import ParamNarrow.Proofs.ScannerSnapshots
import ParamNarrow.Proofs.ShebangLine
import ParamNarrow.Proofs.VisitorWalk
import ParamNarrow.Proofs.LinePositions
import ParamNarrow.Proofs.RenderedSnippet
import ParamNarrow.Proofs.Tree.Shape
import ParamNarrow.Proofs.Tree.Steps
import ParamNarrow.Proofs.Tree.Types
import ParamNarrow.Proofs.Tree.Expressions
import ParamNarrow.Proofs.Tree.Declarations
import ParamNarrow.Proofs.Tree.Statements
import ParamNarrow.Proofs.Tree.File
import ParamNarrow.Proofs.Speculation
import ParamNarrow.Proofs.IndentWidth
import ParamNarrow.Proofs.OffsetWidth
