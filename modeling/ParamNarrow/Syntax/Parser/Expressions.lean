import ParamNarrow.Syntax.Parser.Types
/-!
# Expressions

The expression grammar, from comma expressions down to primary expressions: assignments and
conditionals, `yield`, arrow functions (tried speculatively up to their `=>`), binary operators by
precedence with `as` and `satisfies`, prefix and postfix operators, member access, calls, tagged
templates, `new`, literals, templates, array and object literals and function expressions.

Function-like nodes share one tail, `functionLikeRest`: type parameters, parameters, return type
and body, read in the context of the function's body.
-/

namespace ParamNarrow

namespace Parser

variable (g : Grammar)

/-! ### Operators -/

/-- The precedence of a binary operator, 0 for a token that is none; `in` is none where it is
disallowed. -/
def binaryPrecedence (k : TokenKind) (disallowIn : Bool) : Nat :=
  match k with
  | .questionQuestionToken | .barBarToken => 5
  | .ampersandAmpersandToken => 6
  | .barToken => 7
  | .caretToken => 8
  | .ampersandToken => 9
  | .equalsEqualsToken | .exclamationEqualsToken | .equalsEqualsEqualsToken
  | .exclamationEqualsEqualsToken => 10
  | .inKeyword => if disallowIn then 0 else 11
  | .lessThanToken | .greaterThanToken | .lessThanEqualsToken | .greaterThanEqualsToken
  | .instanceOfKeyword | .asKeyword | .satisfiesKeyword => 11
  | .lessThanLessThanToken | .greaterThanGreaterThanToken
  | .greaterThanGreaterThanGreaterThanToken => 12
  | .plusToken | .minusToken => 13
  | .asteriskToken | .slashToken | .percentToken => 14
  | .asteriskAsteriskToken => 15
  | _ => 0

/-- The tokens that start a prefix unary expression. -/
def isPrefixOperator (k : TokenKind) : Bool :=
  k == .plusToken || k == .minusToken || k == .tildeToken || k == .exclamationToken
    || k == .plusPlusToken || k == .minusMinusToken || k == .typeOfKeyword || k == .voidKeyword
    || k == .deleteKeyword

/-- The tokens besides identifiers that may start an expression. -/
def isExpressionStart (k : TokenKind) : Bool :=
  k == .numericLiteral || k == .bigIntLiteral || k == .stringLiteral
    || k == .noSubstitutionTemplateLiteral || k == .templateHead || k == .openParenToken
    || k == .openBracketToken || k == .openBraceToken || k == .thisKeyword || k == .superKeyword
    || k == .nullKeyword || k == .trueKeyword || k == .falseKeyword || k == .functionKeyword
    || k == .classKeyword || k == .newKeyword || k == .importKeyword || k == .typeOfKeyword
    || k == .voidKeyword || k == .deleteKeyword || k == .plusToken || k == .minusToken
    || k == .tildeToken || k == .exclamationToken || k == .plusPlusToken || k == .minusMinusToken
    || k == .slashToken || k == .slashEqualsToken || k == .lessThanToken

/-- Whether an expression may start at the current token. -/
def startsExpression : ParserM Bool := do
  return (← isIdentifier) || isExpressionStart (← token)

/-- Whether `async` here is the modifier of a function on the same line. -/
def startsAsyncFunction : ParserM Bool := lookAhead do
  nextToken
  return (← isToken .functionKeyword) && !(← lineBreakBefore)

/-! ### Functions -/

/-- The tail of a function-like node that started at `start`: type parameters, parameters,
return type and body, in the context of the function's body. Without a body, a declaration ends
like a statement and other kinds report the missing `{`. -/
def functionLikeRest (kind : FunctionKind) (start : Nat) (mods : Modifiers) (asterisk : Bool)
    (name : Option Node) (bodyOptional : Bool) : ParserM Node :=
  withContext (functionContext mods.async asterisk) do
    let typeParams ← typeParameters g
    let (params, trailing) ← parameters g
    let result ← if ← accept .colonToken then some <$> returnType g else pure none
    let body ← if ← isToken .openBraceToken then some <$> g.block
      else if bodyOptional then do
        semicolon
        pure none
      else do
        let _ ← expect .openBraceToken
        pure none
    return .function ⟨start, ← lastEnd⟩ kind mods asterisk name typeParams params trailing result
      body false

/-- A function expression `function* name(params) { ... }`; `function` is the current token. -/
def functionExpression (start : Nat) (mods : Modifiers) : ParserM Node := do
  let _ ← expect .functionKeyword
  let asterisk ← accept .asteriskToken
  let name ← if ← isIdentifier then some <$> identifier else pure none
  functionLikeRest g .expression start mods asterisk name false

/-- The head of an arrow function, up to and including its `=>`. -/
structure ArrowHead where
  async : Bool
  typeParams : Option (List Node)
  params : List Node
  trailing : Bool
  result : Option Node
  /-- A single parameter written without parentheses. -/
  bare : Bool

/-- Read an arrow function's head, or fail where the tokens form none. -/
def arrowHead : ParserM (Option ArrowHead) := do
  let async ← if (← isToken .asyncKeyword) && !(← peekIs .equalsGreaterThanToken) then do
      nextToken
      pure true
    else pure false
  let head ← if ← isIdentifier then do
      let start ← tokenPos
      let name ← identifier
      let param := Node.parameter ⟨start, ← lastEnd⟩ false name false none none
      pure (some { async, typeParams := none, params := [param], trailing := false,
                   result := none, bare := true })
    else
      withContext (functionContext async false) do
        let typeParams ← typeParameters g
        if !(← isToken .openParenToken) then return none
        let (params, trailing) ← parameters g
        let result ← if ← accept .colonToken then some <$> returnType g else pure none
        return some { async, typeParams, params, trailing, result, bare := false }
  let some head := head | return none
  if !(← isToken .equalsGreaterThanToken) || (← lineBreakBefore) then return none
  nextToken
  return some head

/-- Whether an arrow function may start here. -/
def mayStartArrow : ParserM Bool := do
  match ← token with
  | .openParenToken | .lessThanToken => return true
  | .asyncKeyword => lookAhead do
    nextToken
    if ← isToken .equalsGreaterThanToken then return true
    return !(← lineBreakBefore)
      && ((← isIdentifier) || (← isToken .openParenToken) || (← isToken .lessThanToken))
  | _ => if ← isIdentifier then peekIs .equalsGreaterThanToken else return false

/-- An arrow function, if its head can be read here without errors. -/
def arrowFunction : ParserM (Option Node) := do
  if !(← mayStartArrow) then return none
  let start ← tokenPos
  let some head ← tryParse (arrowHead g) | return none
  let body ← withContext (functionContext head.async false) do
    if ← isToken .openBraceToken then g.block else g.assignment
  return some (.function ⟨start, ← lastEnd⟩ .arrow { async := head.async } false none
    head.typeParams head.params head.trailing head.result (some body) head.bare)

/-! ### Literals -/

/-- An argument or array element: `...expr` or an assignment expression. -/
def spreadOrAssignment : ParserM Node := do
  if !(← isToken .dotDotDotToken) then return ← g.assignment
  let start ← tokenPos
  nextToken
  let e ← g.assignment
  return .spreadElement ⟨start, ← lastEnd⟩ e

/-- The spans of a template after its head, each an expression and the literal text after it. -/
def templateSpans : Nat → List Node → ParserM (List Node)
  | 0, acc => return acc.reverse
  | n + 1, acc => do
    let start ← tokenPos
    let e ← g.expression
    if !(← isToken .closeBraceToken) then
      errorAtToken .unterminatedTemplate
      return acc.reverse
    rescanTemplate
    let k ← token
    let text ← literal
    let span := Node.templateSpan ⟨start, ← lastEnd⟩ e text
    if k != .templateMiddle then return (span :: acc).reverse
    templateSpans n (span :: acc)

/-- A template with substitutions; its head is the current token. -/
def templateExpression : ParserM Node := do
  let start ← tokenPos
  let head ← literal
  let spans ← templateSpans g (← budget) []
  return .templateExpr ⟨start, ← lastEnd⟩ head spans

/-- The elements of an array literal, holes included, up to `]`. -/
def arrayElements : Nat → List Node → ParserM (List Node)
  | 0, acc => return acc.reverse
  | n + 1, acc => do
    if (← isToken .closeBracketToken) || (← isToken .endOfFileToken) then return acc.reverse
    if ← isToken .commaToken then
      let pos ← tokenPos
      nextToken
      arrayElements n (.omitted ⟨pos, pos⟩ :: acc)
    else
      let e ← spreadOrAssignment g
      if ← accept .commaToken then arrayElements n (e :: acc)
      else return (e :: acc).reverse

/-- An array literal; it is multi-line when its source holds a line feed. -/
def arrayLiteral : ParserM Node := do
  let start ← tokenPos
  let _ ← expect .openBracketToken
  let budget ← budget
  let elements ← allowIn (arrayElements g budget [])
  let _ ← expect .closeBracketToken
  let stop ← lastEnd
  return .arrayLiteral ⟨start, stop⟩ elements (← spansLines start stop)

/-- The `async`, `get` or `set` before an object literal member, when a name follows it. -/
def memberPrefix : ParserM (Bool × Option FunctionKind) := do
  let k ← token
  if k == .asyncKeyword || k == .getKeyword || k == .setKeyword then
    if ← startsMemberName then
      nextToken
      if k == .asyncKeyword then return (true, none)
      if k == .getKeyword then return (false, some .getter)
      return (false, some .setter)
  return (false, none)

/-- A member of an object literal: a spread, an accessor, a method, a shorthand property with an
optional initializer, or `name: value`. -/
def objectLiteralElement : ParserM Node := do
  let start ← tokenPos
  if ← accept .dotDotDotToken then
    let e ← g.assignment
    return .spreadAssignment ⟨start, ← lastEnd⟩ e
  let (async, accessor) ← memberPrefix
  let asterisk ← if accessor.isNone then accept .asteriskToken else pure false
  let nameIsIdentifier ← isIdentifier
  let name ← propertyName g
  let mods : Modifiers := { async }
  if let some kind := accessor then
    return ← functionLikeRest g kind start mods false (some name) false
  if asterisk || async || (← isToken .openParenToken) || (← isToken .lessThanToken) then
    return ← functionLikeRest g .method start mods asterisk (some name) false
  if nameIsIdentifier then
    if (← isToken .commaToken) || (← isToken .closeBraceToken) || (← isToken .equalsToken) then
      let init ← if ← accept .equalsToken then some <$> g.assignment else pure none
      return .shorthandProperty ⟨start, ← lastEnd⟩ name init
  let _ ← expect .colonToken
  let init ← g.assignment
  return .propertyAssignment ⟨start, ← lastEnd⟩ name init

/-- An object literal; it is multi-line when its source holds a line feed. -/
def objectLiteral : ParserM Node := do
  let start ← tokenPos
  let _ ← expect .openBraceToken
  let (elements, _) ← allowIn (delimited .closeBraceToken (objectLiteralElement g))
  let _ ← expect .closeBraceToken
  let stop ← lastEnd
  return .objectLiteral ⟨start, stop⟩ elements (← spansLines start stop)

/-! ### Primary and member expressions -/

/-- A primary expression. -/
def primary : ParserM Node := do
  let start ← tokenPos
  match ← token with
  | .numericLiteral | .bigIntLiteral | .stringLiteral | .noSubstitutionTemplateLiteral => literal
  | .templateHead => templateExpression g
  | .thisKeyword | .superKeyword | .nullKeyword | .trueKeyword | .falseKeyword
  | .importKeyword => keywordNode
  | .openParenToken =>
    nextToken
    let e ← allowIn g.expression
    let _ ← expect .closeParenToken
    return .parenthesized ⟨start, ← lastEnd⟩ e
  | .openBracketToken => arrayLiteral g
  | .openBraceToken => objectLiteral g
  | .functionKeyword => functionExpression g start {}
  | .classKeyword => unsupportedDeclaration "class expression"
  | .slashToken | .slashEqualsToken =>
    rescanSlash
    literal
  | .hashToken =>
    reportUnsupported "private name"
    nextToken
    missingIdent
  | k =>
    if k == .asyncKeyword then
      if ← startsAsyncFunction then
        nextToken
        return ← functionExpression g start { async := true }
    if ← isIdentifier then identifier
    else
      errorAtToken .expressionExpected
      missingIdent

/-- The arguments `( ... )` of a call or `new`. -/
def arguments : ParserM (List Node) := do
  let _ ← expect .openParenToken
  let (args, _) ← allowIn (delimited .closeParenToken (spreadOrAssignment g))
  let _ ← expect .closeParenToken
  return args

/-- The rest of a call whose callee started at `start`. -/
def callRest (start : Nat) (callee : Node) (typeArgs : Option (List Node)) (questionDot : Bool) :
    ParserM Node := do
  let args ← arguments g
  return .call ⟨start, ← lastEnd⟩ callee questionDot typeArgs args

/-- The rest of an element access `[index]`. -/
def elementAccessRest (start : Nat) (object : Node) (questionDot : Bool) : ParserM Node := do
  let _ ← expect .openBracketToken
  let index ← allowIn g.expression
  let _ ← expect .closeBracketToken
  return .elementAccess ⟨start, ← lastEnd⟩ object questionDot index

/-- The template of a tagged template. -/
def taggedTemplateRest (start : Nat) (tag : Node) (typeArgs : Option (List Node)) :
    ParserM Node := do
  let template ← if ← isToken .templateHead then templateExpression g else literal
  return .taggedTemplate ⟨start, ← lastEnd⟩ tag typeArgs template

/-- Type arguments that are followed by a call's `(` (where calls are allowed) or a template. -/
def typeArgumentsOfCall (allowCalls : Bool) : ParserM (Option (List Node)) := tryParse do
  let some args ← typeArguments g | return none
  let follows := (allowCalls && (← isToken .openParenToken))
    || (← isToken .noSubstitutionTemplateLiteral) || (← isToken .templateHead)
  return if follows then some args else none

/-- Member accesses, calls (where allowed), non-null assertions and tagged templates after an
expression that started at `start`. -/
def memberRest (start : Nat) (allowCalls : Bool) : Nat → Node → ParserM Node
  | 0, e => return e
  | n + 1, e => do
    match ← token with
    | .dotToken =>
      nextToken
      if ← isToken .hashToken then reportUnsupported "private name"
      let name ← identifierName
      memberRest start allowCalls n (.propertyAccess ⟨start, ← lastEnd⟩ e false name)
    | .questionDotToken =>
      nextToken
      let k ← token
      let e ← if allowCalls && k == .openParenToken then callRest g start e none true
        else if allowCalls && k == .lessThanToken then do
          let args ← typeArguments g
          callRest g start e args true
        else if k == .openBracketToken then elementAccessRest g start e true
        else do
          let name ← identifierName
          pure (.propertyAccess ⟨start, ← lastEnd⟩ e true name)
      memberRest start allowCalls n e
    | .openBracketToken =>
      let e ← elementAccessRest g start e false
      memberRest start allowCalls n e
    | .exclamationToken =>
      if ← lineBreakBefore then return e
      nextToken
      memberRest start allowCalls n (.nonNull ⟨start, ← lastEnd⟩ e)
    | .noSubstitutionTemplateLiteral | .templateHead =>
      let e ← taggedTemplateRest g start e none
      memberRest start allowCalls n e
    | .openParenToken =>
      if !allowCalls then return e
      let e ← callRest g start e none false
      memberRest start allowCalls n e
    | .lessThanToken =>
      let some args ← typeArgumentsOfCall g allowCalls | return e
      let e ← if ← isToken .openParenToken then callRest g start e (some args) false
        else taggedTemplateRest g start e (some args)
      memberRest start allowCalls n e
    | _ => return e

/-- A `new` expression, or `new.target`; `new` is the current token. -/
def newExpression : ParserM Node := do
  let start ← tokenPos
  let keywordEnd ← tokenEnd
  let _ ← expect .newKeyword
  if ← isToken .dotToken then
    let keyword := Node.keyword ⟨start, keywordEnd⟩ .newKeyword
    nextToken
    let name ← identifierName
    return .propertyAccess ⟨start, ← lastEnd⟩ keyword false name
  let calleeStart ← tokenPos
  let callee ← if ← isToken .newKeyword then g.newExpression else primary g
  let e ← memberRest g calleeStart false (← budget) callee
  let typeArgs ← if ← isToken .lessThanToken then tryParse (typeArguments g) else pure none
  let args ← if ← isToken .openParenToken then some <$> arguments g else pure none
  return .new ⟨start, ← lastEnd⟩ e typeArgs args

/-- A left-hand side expression: a `new` or primary expression with its member accesses and
calls. -/
def leftHandSide : ParserM Node := do
  let start ← tokenPos
  let e ← if ← isToken .newKeyword then g.newExpression else primary g
  memberRest g start true (← budget) e

/-! ### Operators and assignments -/

/-- Whether `await` here is an operator: inside an async function, or where an operand follows
on the same line. -/
def isAwaitOperator : ParserM Bool := do
  if (← get).context.async then return true
  lookAhead do
    nextToken
    return !(← lineBreakBefore) && (← startsExpression)

/-- A prefix unary expression that started at `start`; the operator is the current token. -/
def prefixUnary (start : Nat) : ParserM Node := do
  let op ← token
  nextToken
  let operand ← g.unary
  return .prefixUnary ⟨start, ← lastEnd⟩ op operand

/-- A unary expression: prefix operators, `await`, or a left-hand side expression with an
optional postfix `++` or `--` on the same line. An angle-bracket type assertion is reported. -/
def unaryBody : ParserM Node := do
  let start ← tokenPos
  let k ← token
  if isPrefixOperator k then return ← prefixUnary g start
  if k == .awaitKeyword then
    if ← isAwaitOperator then return ← prefixUnary g start
  if k == .lessThanToken then
    reportUnsupported "angle-bracket type assertion"
    nextToken
    return ← missingIdent
  let e ← leftHandSide g
  if ((← isToken .plusPlusToken) || (← isToken .minusMinusToken)) && !(← lineBreakBefore) then
    let op ← token
    nextToken
    return .postfixUnary ⟨start, ← lastEnd⟩ op e
  return e

/-- The binary operators after a left operand that started at `start`, binding tighter than
`minPrec`; `**` groups to the right. -/
def binaryRest (start minPrec : Nat) : Nat → Node → ParserM Node
  | 0, left => return left
  | n + 1, left => do
    if ← isToken .greaterThanToken then rescanGreater
    let op ← token
    let prec := binaryPrecedence op (← get).context.disallowIn
    if prec == 0 then return left
    let binds := if op == .asteriskAsteriskToken then prec ≥ minPrec else prec > minPrec
    if !binds then return left
    if op == .asKeyword || op == .satisfiesKeyword then
      if ← lineBreakBefore then return left
      nextToken
      let type ← g.type
      let stop ← lastEnd
      let e := if op == .asKeyword then Node.asExpr ⟨start, stop⟩ left type
        else Node.satisfiesExpr ⟨start, stop⟩ left type
      binaryRest start minPrec n e
    else
      nextToken
      let right ← g.binary prec
      binaryRest start minPrec n (.binary ⟨start, ← lastEnd⟩ left op right)

/-- A binary expression whose operators bind tighter than `minPrec`. -/
def binaryBody (minPrec : Nat) : ParserM Node := do
  let start ← tokenPos
  let left ← g.unary
  binaryRest g start minPrec (← budget) left

/-- A `yield` expression; `yield` is the current token. -/
def yieldExpression : ParserM Node := do
  let start ← tokenPos
  nextToken
  let delegate ← if ← lineBreakBefore then pure false else accept .asteriskToken
  let operand ← if delegate || (!(← lineBreakBefore) && (← startsExpression)) then
      some <$> g.assignment
    else pure none
  return .yieldExpr ⟨start, ← lastEnd⟩ delegate operand

/-- An assignment expression: `yield` in a generator, an arrow function, or a binary expression
followed by an assignment operator or a conditional. -/
def assignmentBody : ParserM Node := do
  if (← isToken .yieldKeyword) && (← get).context.generator then return ← yieldExpression g
  if let some arrow ← arrowFunction g then return arrow
  let start ← tokenPos
  let left ← g.binary 0
  let k ← token
  if k.isAssignment then
    nextToken
    let right ← g.assignment
    return .binary ⟨start, ← lastEnd⟩ left k right
  if k == .questionToken then
    nextToken
    let whenTrue ← allowIn g.assignment
    let _ ← expect .colonToken
    let whenFalse ← g.assignment
    return .conditional ⟨start, ← lastEnd⟩ left whenTrue whenFalse
  return left

/-- An assignment expression, one nesting level deeper. -/
def assignment : ParserM Node :=
  guarded missingIdent (assignmentBody g)

/-- Comma operators after a first expression that started at `start`. -/
def commaRest (start : Nat) : Nat → Node → ParserM Node
  | 0, left => return left
  | n + 1, left => do
    if !(← isToken .commaToken) then return left
    nextToken
    let right ← g.assignment
    commaRest start n (.binary ⟨start, ← lastEnd⟩ left .commaToken right)

/-- An expression: assignment expressions joined by commas. -/
def expression : ParserM Node := do
  let start ← tokenPos
  let first ← g.assignment
  commaRest g start (← budget) first

end Parser

end ParamNarrow
