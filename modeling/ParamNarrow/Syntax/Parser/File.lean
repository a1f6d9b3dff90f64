import ParamNarrow.Syntax.Parser.Statements
/-!
# Parsing a file

`Grammar.ofFuel` ties the grammar's knot: each entry point runs its rule with the grammar of one
less level. Every cycle of the grammar consumes a token on its way round, or stops at the nesting
limit, so a fixed number of levels per byte of the text is enough fuel; `parseFile` gives that
much.

`parseFile` reads a whole file. Its diagnostics are the parser's, then the scanner's, ordered by
offset with ties kept in that order.
-/

namespace ParamNarrow

/-- An entry point with no level of recursion left: it reports an error at the current token and
stands in with an empty name. -/
def Parser.failNode : ParserM Node := do
  Parser.errorAtToken .expressionExpected
  Parser.missingIdent

/-- The grammar with `fuel` levels of recursion. Without fuel each entry point reports an error
at the current token and stands in with an empty name, or with no statement. -/
def Grammar.ofFuel : Nat → Grammar
  | 0 =>
    { statement := do
        Parser.errorAtToken .declarationOrStatementExpected
        pure none
      block := Parser.failNode
      expression := Parser.failNode
      assignment := Parser.failNode
      unary := Parser.failNode
      binary := fun _ => Parser.failNode
      newExpression := Parser.failNode
      type := Parser.failNode
      typeOperator := Parser.failNode
      bindingName := Parser.failNode }
  | n + 1 =>
    { statement := fun p => Parser.statement (ofFuel n) p
      block := fun p => Parser.block (ofFuel n) p
      expression := fun p => Parser.expression (ofFuel n) p
      assignment := fun p => Parser.assignment (ofFuel n) p
      unary := fun p => Parser.unaryBody (ofFuel n) p
      binary := fun prec p => Parser.binaryBody (ofFuel n) prec p
      newExpression := fun p => Parser.newExpression (ofFuel n) p
      type := fun p => Parser.typeNode (ofFuel n) p
      typeOperator := fun p => Parser.typeOperator (ofFuel n) p
      bindingName := fun p => Parser.bindingName (ofFuel n) p }

/-- Levels of recursion enough for a text: a fixed number per byte. -/
def Grammar.fuelFor (text : String) : Nat :=
  32 * (text.utf8ByteSize + 8)

/-- The grammar for parsing `text`. -/
def Grammar.forText (text : String) : Grammar :=
  ofFuel (fuelFor text)

/-- The diagnostics of a parse: the parser's, then the scanner's, stably sorted by offset. -/
def Parser.allDiagnostics (p : Parser) : List Diagnostic :=
  let scanned := p.scanner.errors.toList.map fun e =>
    ({ file := p.fileName, start := e.pos, length := e.length, message := e.message } : Diagnostic)
  (p.diagnostics.toList ++ scanned).mergeSort fun a b => a.start ≤ b.start

/-- Parse `text` as the file `fileName` with the grammar `g`: the file's statements and comments,
and the diagnostics. -/
def parseFileWith (g : Grammar) (fileName text : String) : SourceFile × List Diagnostic :=
  let run : ParserM (List Node) := do
    Parser.nextToken
    Parser.statementList g true
  let (statements, p) := run.run (Parser.start fileName text)
  ({ fileName, text, statements, comments := p.scanner.comments, stop := p.scanner.pos },
    p.allDiagnostics)

/-- Parse `text` as the file `fileName`, with the levels of recursion its size asks for. -/
def parseFile (fileName text : String) : SourceFile × List Diagnostic :=
  parseFileWith (Grammar.forText text) fileName text

end ParamNarrow
