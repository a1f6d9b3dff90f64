import ParamNarrow.Syntax.Parser.Expressions
/-!
# Statements and declarations

Statements, blocks, variable, function, type alias and interface declarations with their
modifiers, and imports and exports. Classes, enums, namespaces, decorators, labeled statements
and the `import =`/`export =` forms are reported as unsupported and skipped to the end of their
statement.

A statement may fail to parse at all (a modifier followed by no declaration): `statement` then
yields `none`, and the enclosing list drops it.
-/

namespace ParamNarrow

namespace Parser

variable (g : Grammar)

/-! ### Look-aheads -/

/-- Whether `let` starts a declaration: a name or a pattern follows it. -/
def isLetDeclaration : ParserM Bool := lookAhead do
  nextToken
  return (← isIdentifier) || (← isToken .openBraceToken) || (← isToken .openBracketToken)

/-- Whether an identifier follows on the same line. -/
def nextIsIdentifierOnSameLine : ParserM Bool := lookAhead do
  nextToken
  return (← isIdentifier) && !(← lineBreakBefore)

/-- Whether `import` here starts a call `import(...)` or `import.meta`. -/
def isImportCall : ParserM Bool := lookAhead do
  nextToken
  return (← isToken .openParenToken) || (← isToken .dotToken)

/-- Whether `declare` here is a modifier: a name, keyword or string follows on the same line. -/
def startsDeclarationAfterModifier : ParserM Bool := lookAhead do
  nextToken
  return !(← lineBreakBefore)
    && ((← isIdentifier) || (← token).isAnyKeyword || (← isToken .stringLiteral))

/-- Whether `namespace` or `module` here starts a declaration. -/
def isNamespaceDeclaration : ParserM Bool := lookAhead do
  nextToken
  return !(← lineBreakBefore) && ((← isIdentifier) || (← isToken .stringLiteral))

/-- Whether `declare` here starts `declare global`. -/
def isGlobalAugmentation : ParserM Bool := lookAhead do
  nextToken
  return (← isToken .identifier) && (← tokenValue) == "global"

/-! ### Variables -/

/-- A variable declaration `name!: T = init`. -/
def variableDeclaration : ParserM Node := do
  let start ← tokenPos
  let name ← g.bindingName
  let definite ← if ← lineBreakBefore then pure false else accept .exclamationToken
  let type ← if ← accept .colonToken then some <$> g.type else pure none
  let init ← if ← accept .equalsToken then some <$> g.assignment else pure none
  return .variableDeclaration ⟨start, ← lastEnd⟩ name definite type init

/-- A declaration list `let a = 1, b`; its keyword is the current token. -/
def variableList : ParserM Node := do
  let start ← tokenPos
  let keyword : DeclKeyword := match ← token with
    | .letKeyword => .letKw
    | .constKeyword => .const
    | _ => .var
  nextToken
  let first ← variableDeclaration g
  let rest ← separated .commaToken (variableDeclaration g)
  return .variableList ⟨start, ← lastEnd⟩ keyword (first :: rest)

/-- A variable statement that started at `start`, after its modifiers. -/
def variableStatement (start : Nat) (mods : Modifiers) : ParserM Node := do
  let list ← variableList g
  semicolon
  return .variableStatement ⟨start, ← lastEnd⟩ mods list

/-! ### Declarations -/

/-- A function declaration after its modifiers; only a default export may leave out the name. -/
def functionDeclaration (start : Nat) (mods : Modifiers) : ParserM Node := do
  let _ ← expect .functionKeyword
  let asterisk ← accept .asteriskToken
  let name ← if ← isIdentifier then some <$> identifier
    else if mods.isDefault then pure none
    else some <$> identifier
  functionLikeRest g .declaration start mods asterisk name true

/-- A type alias `type Name<T> = Type;` after its modifiers. -/
def typeAlias (start : Nat) (mods : Modifiers) : ParserM Node := do
  let _ ← expect .typeKeyword
  let name ← identifier
  let typeParams ← typeParameters g
  let _ ← expect .equalsToken
  let type ← g.type
  semicolon
  return .typeAlias ⟨start, ← lastEnd⟩ mods name typeParams type

/-- An interface `interface Name<T> extends A, B { ... }` after its modifiers; `implements` is
reported. -/
def interfaceDeclaration (start : Nat) (mods : Modifiers) : ParserM Node := do
  let _ ← expect .interfaceKeyword
  let name ← identifier
  let typeParams ← typeParameters g
  let heritage ← if ← accept .extendsKeyword then do
      let first ← typeReference g
      let rest ← separated .commaToken (typeReference g)
      pure (some (first :: rest))
    else pure none
  if ← isToken .implementsKeyword then reportUnsupported "implements"
  let members ← typeMembers g
  return .interfaceDeclaration ⟨start, ← lastEnd⟩ mods name typeParams heritage members

/-- The declaration after modifiers, other than a further `declare`; none where no declaration
stands. -/
def declarationKinds (start : Nat) (mods : Modifiers) : ParserM (Option Node) := do
  match ← token with
  | .functionKeyword => some <$> functionDeclaration g start mods
  | .constKeyword =>
    if ← peekIs .enumKeyword then some <$> unsupportedDeclaration "enum"
    else some <$> variableStatement g start mods
  | .varKeyword | .letKeyword => some <$> variableStatement g start mods
  | .typeKeyword => some <$> typeAlias g start mods
  | .interfaceKeyword => some <$> interfaceDeclaration g start mods
  | .classKeyword | .abstractKeyword => some <$> unsupportedDeclaration "class"
  | .enumKeyword => some <$> unsupportedDeclaration "enum"
  | .namespaceKeyword | .moduleKeyword => some <$> unsupportedDeclaration "namespace"
  | .atToken => some <$> unsupportedDeclaration "decorator"
  | k =>
    if k == .asyncKeyword then
      if ← startsAsyncFunction then
        nextToken
        return some (← functionDeclaration g start { mods with async := true })
    errorAtToken .declarationOrStatementExpected
    return none

/-- A declaration that started at `start`, after the modifiers `mods`; a `declare` here adds to
them, and `declare global` is reported. -/
def declarationAfterModifiers (start : Nat) (mods : Modifiers) : ParserM (Option Node) := do
  if (← isToken .declareKeyword) && !mods.declared then
    if ← isGlobalAugmentation then return some (← unsupportedDeclaration "global augmentation")
    nextToken
    return ← declarationKinds g start { mods with declared := true }
  declarationKinds g start mods

/-! ### Imports and exports -/

/-- A module specifier: a string literal, or a diagnostic and an empty name. -/
def moduleSpecifier : ParserM Node := do
  if ← isToken .stringLiteral then literal
  else
    let _ ← expect .stringLiteral
    missingIdent

/-- Report import attributes `with { ... }` or `assert { ... }` on the same line. -/
def importAttributes : ParserM Unit := do
  let attributes := (← isToken .withKeyword)
    || ((← isToken .identifier) && (← tokenValue) == "assert")
  if attributes && !(← lineBreakBefore) then reportUnsupported "import attributes"

/-- An import or export specifier `type a as b`. -/
def specifier (isImport : Bool) : ParserM Node := do
  let start ← tokenPos
  let typeOnly ← if ← isToken .typeKeyword then
      lookAhead do
        nextToken
        return (← isIdentifierOrKeyword) && !(← isToken .asKeyword)
    else pure false
  if typeOnly then nextToken
  let first ← identifierName
  let (property, name) ← if ← accept .asKeyword then do
      let name ← identifierName
      pure (some first, name)
    else pure (none, first)
  let span : Span := ⟨start, ← lastEnd⟩
  return if isImport then .importSpecifier span typeOnly property name
    else .exportSpecifier span typeOnly property name

/-- Named imports or exports `{ a, b as c }`. -/
def namedBindings (isImport : Bool) : ParserM Node := do
  let start ← tokenPos
  let _ ← expect .openBraceToken
  let (elements, _) ← delimited .closeBraceToken (specifier isImport)
  let _ ← expect .closeBraceToken
  let span : Span := ⟨start, ← lastEnd⟩
  return if isImport then .namedImports span elements else .namedExports span elements

/-- An export declaration `export * as ns from "m";` or `export { a } from "m";` after
`export` and an optional `type`. -/
def exportDeclaration (start : Nat) (typeOnly : Bool) : ParserM Node := do
  let clause ← if ← isToken .asteriskToken then do
      let clauseStart ← tokenPos
      nextToken
      if ← accept .asKeyword then
        let name ← identifierName
        pure (some (Node.namespaceExport ⟨clauseStart, ← lastEnd⟩ name))
      else pure none
    else some <$> namedBindings false
  let needsFrom := match clause with
    | none | some (.namespaceExport ..) => true
    | _ => false
  let specifier ← if needsFrom || (← isToken .fromKeyword) then do
      let _ ← expect .fromKeyword
      some <$> moduleSpecifier
    else pure none
  semicolon
  return .exportDeclaration ⟨start, ← lastEnd⟩ typeOnly clause specifier

/-- An import declaration; `import` is the current token. -/
def importDeclaration : ParserM Node := do
  let start ← tokenPos
  let _ ← expect .importKeyword
  if ← isToken .stringLiteral then
    let spec ← moduleSpecifier
    importAttributes
    semicolon
    return .importDeclaration ⟨start, ← lastEnd⟩ none spec
  let clauseStart ← tokenPos
  let typeOnly ← if ← isToken .typeKeyword then
      lookAhead do
        nextToken
        return (← isToken .openBraceToken) || (← isToken .asteriskToken)
          || ((← isIdentifier) && !(← isToken .fromKeyword))
    else pure false
  if typeOnly then nextToken
  let name ← if ← isIdentifier then some <$> identifier else pure none
  let bindingsFollow ← if name.isNone then pure true else accept .commaToken
  let bindings ← if bindingsFollow then
      if ← isToken .asteriskToken then do
        let nsStart ← tokenPos
        nextToken
        let _ ← expect .asKeyword
        let binding ← identifier
        pure (some (Node.namespaceImport ⟨nsStart, ← lastEnd⟩ binding))
      else some <$> namedBindings true
    else pure none
  let clause := Node.importClause ⟨clauseStart, ← lastEnd⟩ typeOnly name bindings
  let _ ← expect .fromKeyword
  let spec ← moduleSpecifier
  importAttributes
  semicolon
  return .importDeclaration ⟨start, ← lastEnd⟩ (some clause) spec

/-- A statement starting with `export`. -/
def exportStatement : ParserM (Option Node) := do
  let start ← tokenPos
  let _ ← expect .exportKeyword
  let exported : Modifiers := { exported := true }
  match ← token with
  | .defaultKeyword =>
    nextToken
    let mods := { exported with isDefault := true }
    if (← isToken .functionKeyword) || (← isToken .interfaceKeyword) then
      return ← declarationAfterModifiers g start mods
    if ← isToken .asyncKeyword then
      if ← startsAsyncFunction then return ← declarationAfterModifiers g start mods
    if (← isToken .classKeyword) || (← isToken .abstractKeyword) then
      return some (← unsupportedDeclaration "class")
    let e ← g.assignment
    semicolon
    return some (.exportAssignment ⟨start, ← lastEnd⟩ e)
  | .openBraceToken | .asteriskToken => some <$> exportDeclaration start false
  | .typeKeyword =>
    if ← lookAhead (do
        nextToken
        return (← isToken .openBraceToken) || (← isToken .asteriskToken)) then
      nextToken
      return some (← exportDeclaration start true)
    declarationAfterModifiers g start exported
  | .equalsToken => some <$> unsupportedDeclaration "export ="
  | .importKeyword => some <$> unsupportedDeclaration "import ="
  | .asKeyword => some <$> unsupportedDeclaration "export as namespace"
  | _ => declarationAfterModifiers g start exported

/-! ### Statements -/

/-- The statements of a list, up to the end of the file or, inside a block, up to `}`. At the
top level a `}` is reported and skipped. A statement that consumed nothing is skipped over. -/
def statementItems (topLevel : Bool) : Nat → List Node → ParserM (List Node)
  | 0, acc => return acc.reverse
  | n + 1, acc => do
    if ← isToken .endOfFileToken then return acc.reverse
    if ← isToken .closeBraceToken then
      if !topLevel then return acc.reverse
      errorAtToken .declarationOrStatementExpected
      nextToken
      return ← statementItems topLevel n acc
    let before ← tokenPos
    let s ← g.statement
    let acc := match s with
      | some s => s :: acc
      | none => acc
    if (← tokenPos) == before && !(← isToken .endOfFileToken)
        && !((← isToken .closeBraceToken) && !topLevel) then
      nextToken
    statementItems topLevel n acc

/-- A list of statements. -/
def statementList (topLevel : Bool) : ParserM (List Node) := do
  statementItems g topLevel (← budget) []

/-- A block `{ ... }`; it is multi-line when its source holds a line feed. -/
def block : ParserM Node := do
  let start ← tokenPos
  let _ ← expect .openBraceToken
  let statements ← allowIn (statementList g false)
  let _ ← expect .closeBraceToken
  let stop ← lastEnd
  return .block ⟨start, stop⟩ statements (← spansLines start stop)

/-- An expression statement. -/
def expressionStatement : ParserM Node := do
  let start ← tokenPos
  let e ← g.expression
  semicolon
  return .expressionStatement ⟨start, ← lastEnd⟩ e

/-- An `if` statement. -/
def ifStatement : ParserM Node := do
  let start ← tokenPos
  let _ ← expect .ifKeyword
  let _ ← expect .openParenToken
  let condition ← g.expression
  let _ ← expect .closeParenToken
  let thenBranch ← g.statement
  let elseBranch ← if ← accept .elseKeyword then g.statement else pure none
  return .ifStatement ⟨start, ← lastEnd⟩ condition thenBranch elseBranch

/-- A `do ... while (...)` statement, with an optional `;`. -/
def doStatement : ParserM Node := do
  let start ← tokenPos
  let _ ← expect .doKeyword
  let body ← g.statement
  let _ ← expect .whileKeyword
  let _ ← expect .openParenToken
  let condition ← g.expression
  let _ ← expect .closeParenToken
  let _ ← accept .semicolonToken
  return .doStatement ⟨start, ← lastEnd⟩ body condition

/-- A `while` statement. -/
def whileStatement : ParserM Node := do
  let start ← tokenPos
  let _ ← expect .whileKeyword
  let _ ← expect .openParenToken
  let condition ← g.expression
  let _ ← expect .closeParenToken
  let body ← g.statement
  return .whileStatement ⟨start, ← lastEnd⟩ condition body

/-- A `for`, `for ... in` or `for ... of` statement. -/
def forStatement : ParserM Node := do
  let start ← tokenPos
  let _ ← expect .forKeyword
  let await ← accept .awaitKeyword
  let _ ← expect .openParenToken
  let declares := (← isToken .varKeyword) || (← isToken .constKeyword)
    || ((← isToken .letKeyword) && (← isLetDeclaration))
  let init ← if ← isToken .semicolonToken then pure none
    else if declares then some <$> disallowIn (variableList g)
    else some <$> disallowIn g.expression
  let forOf := await || (← isToken .ofKeyword)
  let forIn := !forOf && (← isToken .inKeyword)
  if forOf || forIn then
    let _ ← expect (if forOf then .ofKeyword else .inKeyword)
    let e ← if forOf then allowIn g.assignment else allowIn g.expression
    let _ ← expect .closeParenToken
    let body ← g.statement
    let span : Span := ⟨start, ← lastEnd⟩
    return if forOf then .forOfStatement span await init e body
      else .forInStatement span await init e body
  let _ ← expect .semicolonToken
  let condition ← if ← isToken .semicolonToken then pure none else some <$> g.expression
  let _ ← expect .semicolonToken
  let update ← if ← isToken .closeParenToken then pure none else some <$> g.expression
  let _ ← expect .closeParenToken
  let body ← g.statement
  return .forStatement ⟨start, ← lastEnd⟩ init condition update body

/-- A `break` or `continue` statement with an optional label on the same line. -/
def jumpStatement : ParserM Node := do
  let start ← tokenPos
  let isBreak ← isToken .breakKeyword
  nextToken
  let label ← if !(← canEndStatement) && (← isIdentifier) then some <$> identifier
    else pure none
  semicolon
  let span : Span := ⟨start, ← lastEnd⟩
  return if isBreak then .breakStatement span label else .continueStatement span label

/-- A `return` statement. -/
def returnStatement : ParserM Node := do
  let start ← tokenPos
  let _ ← expect .returnKeyword
  let e ← if ← canEndStatement then pure none else some <$> g.expression
  semicolon
  return .returnStatement ⟨start, ← lastEnd⟩ e

/-- A `throw` statement; a line break right after `throw` is reported. -/
def throwStatement : ParserM Node := do
  let start ← tokenPos
  let _ ← expect .throwKeyword
  let e ← if ← lineBreakBefore then do
      errorAtToken .expressionExpected
      pure none
    else some <$> g.expression
  semicolon
  return .throwStatement ⟨start, ← lastEnd⟩ e

/-- The statements of a `case` or `default` clause. -/
def clauseStatements : Nat → List Node → ParserM (List Node)
  | 0, acc => return acc.reverse
  | n + 1, acc => do
    let k ← token
    if k == .caseKeyword || k == .defaultKeyword || k == .closeBraceToken
        || k == .endOfFileToken then
      return acc.reverse
    let before ← tokenPos
    let s ← g.statement
    let acc := match s with
      | some s => s :: acc
      | none => acc
    if (← tokenPos) == before then nextToken
    clauseStatements n acc

/-- The clauses of a `switch` statement up to `}`. A token that starts no clause is reported
and skipped. -/
def switchClauses : Nat → List Node → ParserM (List Node)
  | 0, acc => return acc.reverse
  | n + 1, acc => do
    if (← isToken .closeBraceToken) || (← isToken .endOfFileToken) then return acc.reverse
    let start ← tokenPos
    if ← accept .caseKeyword then
      let e ← g.expression
      let _ ← expect .colonToken
      let statements ← clauseStatements g (← budget) []
      return ← switchClauses n (.caseClause ⟨start, ← lastEnd⟩ e statements :: acc)
    if ← accept .defaultKeyword then
      let _ ← expect .colonToken
      let statements ← clauseStatements g (← budget) []
      return ← switchClauses n (.defaultClause ⟨start, ← lastEnd⟩ statements :: acc)
    let _ ← expect .caseKeyword
    nextToken
    switchClauses n acc

/-- A `switch` statement. -/
def switchStatement : ParserM Node := do
  let start ← tokenPos
  let _ ← expect .switchKeyword
  let _ ← expect .openParenToken
  let e ← g.expression
  let _ ← expect .closeParenToken
  let _ ← expect .openBraceToken
  let clauses ← switchClauses g (← budget) []
  let _ ← expect .closeBraceToken
  return .switchStatement ⟨start, ← lastEnd⟩ e clauses

/-- A `try` statement; with neither `catch` nor `finally`, the missing `catch` is reported. -/
def tryStatement : ParserM Node := do
  let start ← tokenPos
  let _ ← expect .tryKeyword
  let tryBlock ← g.block
  let catchClause ← if ← isToken .catchKeyword then do
      let catchStart ← tokenPos
      nextToken
      let declaration ← if ← accept .openParenToken then do
          let d ← variableDeclaration g
          let _ ← expect .closeParenToken
          pure (some d)
        else pure none
      let body ← g.block
      pure (some (Node.catchClause ⟨catchStart, ← lastEnd⟩ declaration body))
    else pure none
  let finallyBlock ← if ← accept .finallyKeyword then some <$> g.block else pure none
  if catchClause.isNone && finallyBlock.isNone then
    let _ ← expect .catchKeyword
  return .tryStatement ⟨start, ← lastEnd⟩ tryBlock catchClause finallyBlock

/-- A statement, chosen by its first token; none when a declaration was expected and none
stands. -/
def statementBody : ParserM (Option Node) := do
  let start ← tokenPos
  match ← token with
  | .openBraceToken => some <$> g.block
  | .semicolonToken =>
    nextToken
    return some (.emptyStatement ⟨start, ← lastEnd⟩)
  | .varKeyword | .constKeyword => declarationAfterModifiers g start {}
  | .functionKeyword => some <$> functionDeclaration g start {}
  | .ifKeyword => some <$> ifStatement g
  | .doKeyword => some <$> doStatement g
  | .whileKeyword => some <$> whileStatement g
  | .forKeyword => some <$> forStatement g
  | .breakKeyword | .continueKeyword => some <$> jumpStatement
  | .returnKeyword => some <$> returnStatement g
  | .throwKeyword => some <$> throwStatement g
  | .switchKeyword => some <$> switchStatement g
  | .tryKeyword => some <$> tryStatement g
  | .debuggerKeyword =>
    nextToken
    semicolon
    return some (.debuggerStatement ⟨start, ← lastEnd⟩)
  | .exportKeyword => exportStatement g
  | .classKeyword => some <$> unsupportedDeclaration "class"
  | .enumKeyword => some <$> unsupportedDeclaration "enum"
  | .atToken => some <$> unsupportedDeclaration "decorator"
  | k =>
    if k == .letKeyword then
      if ← isLetDeclaration then return some (← variableStatement g start {})
    if k == .asyncKeyword then
      if ← startsAsyncFunction then return ← declarationAfterModifiers g start {}
    if k == .importKeyword then
      if !(← isImportCall) then return some (← importDeclaration)
    if k == .declareKeyword then
      if ← startsDeclarationAfterModifier then return ← declarationAfterModifiers g start {}
    if k == .typeKeyword || k == .interfaceKeyword then
      if ← nextIsIdentifierOnSameLine then return ← declarationAfterModifiers g start {}
    if k == .abstractKeyword then
      if ← peekIs .classKeyword then return some (← unsupportedDeclaration "class")
    if k == .namespaceKeyword || k == .moduleKeyword then
      if ← isNamespaceDeclaration then return some (← unsupportedDeclaration "namespace")
    if ← isIdentifier then
      if ← peekIs .colonToken then return some (← unsupportedDeclaration "labeled statement")
    some <$> expressionStatement g

/-- Skip the current token as an empty statement. -/
def skipAsEmpty : ParserM (Option Node) := do
  let pos ← tokenPos
  nextToken
  return some (.emptyStatement ⟨pos, ← lastEnd⟩)

/-- A statement, one nesting level deeper; at the limit, the current token is skipped as an
empty statement. -/
def statement : ParserM (Option Node) :=
  guarded skipAsEmpty (statementBody g)

end Parser

end ParamNarrow
