import ParamNarrow.Syntax.Node
/-!
# Parser state

The parser reads tokens from a `Scanner` and keeps, beside it, the grammar context, the end of the
last token it consumed (where the node being built ends), its diagnostics and its nesting depth.
Its steps are `ParserM` actions over that state.

Three mechanisms shape error recovery and are defined here:

* one diagnostic per offset: a second error at the offset of the last one is a cascade and is
  dropped;
* speculation: `lookAhead` runs a step and returns to the state before it, and `tryParse` keeps
  the step only if it succeeded without reporting a diagnostic;
* a nesting limit: `guarded` refuses to go deeper than `maxDepth` levels.

The grammar's rules are plain functions of a `Grammar`, the record of its recursive entry points;
every cycle of the grammar passes through one of them.
-/

namespace ParamNarrow

/-- The grammar contexts that change how a token is read: `in` is no operator in the head of a
`for` statement, and `await` and `yield` are operators in async functions and generators. -/
structure Context where
  disallowIn : Bool := false
  async : Bool := false
  generator : Bool := false
deriving Repr, DecidableEq, Inhabited

/-- The parser's state. -/
structure Parser where
  /-- The scanner, standing at the current token. -/
  scanner : Scanner
  fileName : String
  context : Context := {}
  /-- The end of the last token consumed: where the node being built ends. -/
  prevEnd : Nat := 0
  diagnostics : Array Diagnostic := #[]
  /-- The offset of the last diagnostic; a second one there is dropped. -/
  lastErrorPos : Option Nat := none
  depth : Nat := 0

/-- A step of the parser. -/
abbrev ParserM := StateM Parser

/-- The deepest nesting of statements, expressions and types that the parser enters. -/
def maxDepth : Nat := 500

/-- The recursive entry points of the grammar. -/
structure Grammar where
  statement : ParserM (Option Node)
  block : ParserM Node
  expression : ParserM Node
  assignment : ParserM Node
  unary : ParserM Node
  binary : Nat → ParserM Node
  newExpression : ParserM Node
  type : ParserM Node
  typeOperator : ParserM Node
  bindingName : ParserM Node

namespace Parser

/-! ### Diagnostics -/

/-- Report `m` at `[start, start + length)`, unless the last diagnostic was reported at `start`. -/
def reportAt (p : Parser) (start length : Nat) (m : Message) : Parser :=
  if p.lastErrorPos == some start then p
  else
    { p with lastErrorPos := some start
             diagnostics := p.diagnostics.push ⟨p.fileName, start, length, m⟩ }

/-- Report `m` at the current token. -/
def reportAtToken (p : Parser) (m : Message) : Parser :=
  p.reportAt p.scanner.tokenStart (p.scanner.pos - p.scanner.tokenStart) m

/-! ### Moving on -/

/-- Report and skip tokens the scanner could not read, for at most `n` rounds. -/
def skipInvalid : Nat → Parser → Parser
  | 0, p => p
  | n + 1, p =>
    if p.scanner.token == .unknown then
      skipInvalid n { p.reportAtToken .invalidCharacter with scanner := p.scanner.scan }
    else p

/-- Consume the current token and read the next one that is not an invalid character. -/
def advance (p : Parser) : Parser :=
  let p := { p with prevEnd := p.scanner.pos, scanner := p.scanner.scan }
  skipInvalid (p.scanner.size + 1) p

/-- A parser at the start of `text`, before its first token. -/
def start (fileName text : String) : Parser :=
  { scanner := (Scanner.new text).skipShebang, fileName }

/-! ### Reading the current token -/

def token : ParserM TokenKind :=
  return (← get).scanner.token

def isToken (k : TokenKind) : ParserM Bool :=
  return (← get).scanner.token == k

def tokenPos : ParserM Nat :=
  return (← get).scanner.tokenStart

def tokenEnd : ParserM Nat :=
  return (← get).scanner.pos

def tokenValue : ParserM String :=
  return (← get).scanner.value

/-- Whether a line break stands before the current token. -/
def lineBreakBefore : ParserM Bool :=
  return (← get).scanner.lineBreakBefore

/-- The end of the last token consumed. -/
def lastEnd : ParserM Nat :=
  return (← get).prevEnd

def nextToken : ParserM Unit :=
  modify advance

/-- Consume the current token and tell whether the one after it is `k`. -/
def nextIs (k : TokenKind) : ParserM Bool := do
  nextToken
  isToken k

/-- An identifier, or a contextual keyword, which may name a binding. -/
def isIdentifier : ParserM Bool := do
  let k ← token
  return k == .identifier || k.isContextualKeyword

/-- An identifier or any keyword, as may stand after a dot. -/
def isIdentifierOrKeyword : ParserM Bool := do
  let k ← token
  return k == .identifier || k.isAnyKeyword

/-- Whether the source slice `[start, stop)` holds a line feed. -/
def spansLines (start stop : Nat) : ParserM Bool := do
  match Text.slice? (← get).scanner.text start stop with
  | some s => return s.toList.contains '\n'
  | none => return false

/-! ### Rescans -/

def rescanGreater : ParserM Unit :=
  modify fun p => { p with scanner := p.scanner.rescanGreater }

def rescanSlash : ParserM Unit :=
  modify fun p => { p with scanner := p.scanner.rescanSlash }

def rescanTemplate : ParserM Unit :=
  modify fun p => { p with scanner := p.scanner.rescanTemplate }

/-! ### Errors -/

def errorAtToken (m : Message) : ParserM Unit :=
  modify (·.reportAtToken m)

/-- Report a construct outside the supported subset at the current token. -/
def reportUnsupported (what : String) : ParserM Unit :=
  errorAtToken (.unsupported what)

/-- Consume a token of kind `k`, or report that it was expected. -/
def expect (k : TokenKind) : ParserM Bool := do
  if ← isToken k then
    nextToken
    return true
  errorAtToken (.tokenExpected (k.text?.getD "token"))
  return false

/-- Consume a token of kind `k` if it is the current one. -/
def accept (k : TokenKind) : ParserM Bool := do
  if ← isToken k then
    nextToken
    return true
  return false

/-- A statement may end here: at `;`, `}`, the end of the file or after a line break. -/
def canEndStatement : ParserM Bool := do
  return (← isToken .semicolonToken) || (← isToken .closeBraceToken)
    || (← isToken .endOfFileToken) || (← lineBreakBefore)

/-- End a statement: consume a `;`, accept an automatic one, or report that `;` was expected. -/
def semicolon : ParserM Unit := do
  if ← accept .semicolonToken then return
  if ← canEndStatement then return
  let _ ← expect .semicolonToken

/-! ### Names -/

/-- An empty identifier at the current token, standing in for a missing name. -/
def missingIdent : ParserM Node := do
  let pos ← tokenPos
  return .ident ⟨pos, pos⟩ ""

/-- The current token as an identifier node, consumed. -/
def identFromToken : ParserM Node := do
  let s := (← get).scanner
  nextToken
  return .ident ⟨s.tokenStart, s.pos⟩ s.value

/-- A binding name: an identifier or contextual keyword. -/
def identifier : ParserM Node := do
  if ← isIdentifier then identFromToken
  else
    errorAtToken .identifierExpected
    missingIdent

/-- A name after a dot or in a member position, where every keyword is allowed. -/
def identifierName : ParserM Node := do
  if ← isIdentifierOrKeyword then identFromToken
  else
    errorAtToken .identifierExpected
    missingIdent

/-- The current token, a literal, as a node: its cooked value and its source text. -/
def literal : ParserM Node := do
  let s := (← get).scanner
  nextToken
  return .literal ⟨s.tokenStart, s.pos⟩ s.token s.value s.tokenText

/-- The current token, a keyword, as a node. -/
def keywordNode : ParserM Node := do
  let start ← tokenPos
  let k ← token
  nextToken
  return .keyword ⟨start, ← lastEnd⟩ k

/-! ### Speculation -/

/-- Return to `saved`: its fields, with the scanner restored to its snapshot and the diagnostics
cut back to their number at `saved`, but the nesting depth kept as it is. -/
def rewind (saved : Parser) : ParserM Unit :=
  modify fun cur =>
    { saved with
      scanner := cur.scanner.restore saved.scanner
      diagnostics := cur.diagnostics.extract 0 saved.diagnostics.size
      depth := cur.depth }

/-- Run `m` and return to the state before it. -/
def lookAhead (m : ParserM α) : ParserM α := do
  let saved ← get
  let r ← m
  rewind saved
  return r

/-- Run `m`, and keep what it did only if it succeeded without a new diagnostic. -/
def tryParse (m : ParserM (Option α)) : ParserM (Option α) := do
  let saved ← get
  match ← m with
  | some v =>
    if (← get).diagnostics.size == saved.diagnostics.size then return some v
    rewind saved
    return none
  | none =>
    rewind saved
    return none

/-- Peek at whether the token after the current one is `k`. -/
def peekIs (k : TokenKind) : ParserM Bool :=
  lookAhead (nextIs k)

/-! ### Context and nesting -/

/-- Run `m` in the context `f c`, where `c` is the current one. -/
def withContext (f : Context → Context) (m : ParserM α) : ParserM α := do
  let saved := (← get).context
  modify fun p => { p with context := f saved }
  let r ← m
  modify fun p => { p with context := saved }
  return r

/-- Run `m` where `in` is a binary operator. -/
def allowIn (m : ParserM α) : ParserM α :=
  withContext (fun c => { c with disallowIn := false }) m

/-- Run `m` where `in` is not a binary operator. -/
def disallowIn (m : ParserM α) : ParserM α :=
  withContext (fun c => { c with disallowIn := true }) m

/-- The context of a function body: `in` is an operator again, and `await` and `yield` are
operators exactly when the function is async or a generator. -/
def functionContext (async generator : Bool) : Context → Context :=
  fun _ => { disallowIn := false, async, generator }

/-- Run `m` one level deeper, or, at `maxDepth`, report and run `fallback` instead. -/
def guarded (fallback : ParserM α) (m : ParserM α) : ParserM α := do
  if (← get).depth ≥ maxDepth then
    errorAtToken .nestedTooDeeply
    fallback
  else
    modify fun p => { p with depth := p.depth + 1 }
    let r ← m
    modify fun p => { p with depth := p.depth - 1 }
    return r

/-! ### Lists and skipping -/

/-- A bound on the rounds of a loop that consumes a token each round: the text's size and two. -/
def budget : ParserM Nat :=
  return (← get).scanner.size + 2

/-- Parse `element` after each `sep` consumed. -/
def separated (sep : TokenKind) (element : ParserM Node) : ParserM (List Node) := do
  loop (← budget) []
where
  loop : Nat → List Node → ParserM (List Node)
    | 0, acc => return acc.reverse
    | n + 1, acc => do
      if ← accept sep then
        let e ← element
        loop n (e :: acc)
      else return acc.reverse

/-- Elements separated by commas, up to the token `close`, which is not consumed; also whether a
comma ended the list. An element followed neither by a comma nor by `close` ends the list with a
diagnostic. -/
def delimited (close : TokenKind) (element : ParserM Node) : ParserM (List Node × Bool) := do
  loop (← budget) [] false
where
  loop : Nat → List Node → Bool → ParserM (List Node × Bool)
    | 0, acc, trailing => return (acc.reverse, trailing)
    | n + 1, acc, trailing => do
      if (← isToken close) || (← isToken .endOfFileToken) then return (acc.reverse, trailing)
      let before ← tokenPos
      let e ← element
      if ← accept .commaToken then
        loop n (e :: acc) (← isToken close)
      else
        if !(← isToken close) then
          let _ ← expect .commaToken
          if (← tokenPos) == before then nextToken
        return ((e :: acc).reverse, trailing)

/-- Skip tokens up to and including the next `;` outside braces or the `}` that closes the
braces opened since. -/
def skipToStatementEnd : ParserM Unit := do
  loop (← budget) 0
where
  loop : Nat → Nat → ParserM Unit
    | 0, _ => return
    | n + 1, depth => do
      match ← token with
      | .endOfFileToken => return
      | .openBraceToken =>
        nextToken
        loop n (depth + 1)
      | .closeBraceToken =>
        if depth ≤ 1 then
          nextToken
        else
          nextToken
          loop n (depth - 1)
      | .semicolonToken =>
        nextToken
        if depth != 0 then loop n depth
      | _ =>
        nextToken
        loop n depth

/-- Report an unsupported declaration, skip it, and stand in for it with an empty statement. -/
def unsupportedDeclaration (what : String) : ParserM Node := do
  let start ← tokenPos
  reportUnsupported what
  skipToStatementEnd
  return .emptyStatement ⟨start, max (← lastEnd) start⟩

end Parser

end ParamNarrow
