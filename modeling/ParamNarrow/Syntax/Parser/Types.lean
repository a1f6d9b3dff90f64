import ParamNarrow.Syntax.Parser.Bindings
/-!
# Types and signatures

The type grammar: function types, unions and intersections (each with an optional leading
separator), the `keyof`, `unique` and `readonly` operators, array and indexed access suffixes,
keyword, literal, tuple, parenthesized and object types, type queries and type references.
Beside it stand the parts of signatures that functions share with types: type parameters,
parameters and return types, and the members of object types.

Constructor, conditional, mapped, template literal, import and `infer` types are reported as
unsupported; the parser then skips them and goes on.
-/

namespace ParamNarrow

namespace Parser

variable (g : Grammar)

/-! ### Helpers -/

/-- Report an unsupported type at the current token, stand in for it with an empty name and
skip the token, so that the caller keeps moving. -/
def unsupportedType (what : String) : ParserM Node := do
  reportUnsupported what
  let missing ← missingIdent
  nextToken
  return missing

/-- Whether the token after the current one starts a member name on the same line: the current
`get`, `set`, `async` or `readonly` is then a modifier and not itself the name. -/
def startsMemberName : ParserM Bool := lookAhead do
  nextToken
  if ← lineBreakBefore then return false
  if ← isIdentifierOrKeyword then return true
  let k ← token
  return k == .stringLiteral || k == .numericLiteral || k == .openBracketToken
    || k == .asteriskToken

/-- The kinds of keyword that stand for a type: `any`, `string`, `void`, `this` and the like. -/
def isKeywordType (k : TokenKind) : Bool :=
  k == .anyKeyword || k == .unknownKeyword || k == .stringKeyword || k == .numberKeyword
    || k == .bigIntKeyword || k == .booleanKeyword || k == .symbolKeyword || k == .objectKeyword
    || k == .neverKeyword || k == .undefinedKeyword || k == .voidKeyword || k == .nullKeyword
    || k == .thisKeyword

/-! ### Names and arguments -/

/-- The rest of a dotted name whose first part, starting at `start`, is `name`. -/
def qualifiedRest (start : Nat) : Nat → Node → ParserM Node
  | 0, name => return name
  | n + 1, name => do
    if ← accept .dotToken then
      let right ← identifierName
      qualifiedRest start n (.qualifiedName ⟨start, ← lastEnd⟩ name right)
    else return name

/-- A dotted name; with `allowThis`, its first part may be `this`. -/
def entityName (allowThis : Bool) : ParserM Node := do
  let start ← tokenPos
  let first ← if allowThis && (← isToken .thisKeyword) then identifierName else identifier
  qualifiedRest start (← budget) first

/-- Type arguments `<A, B>`, if the current token is `<`. -/
def typeArguments : ParserM (Option (List Node)) := do
  if !(← isToken .lessThanToken) then return none
  nextToken
  let (args, _) ← delimited .greaterThanToken g.type
  let _ ← expect .greaterThanToken
  return some args

/-- A type reference: a dotted name with type arguments if `<` follows on the same line. -/
def typeReference : ParserM Node := do
  let start ← tokenPos
  let name ← entityName false
  let args ← if (← isToken .lessThanToken) && !(← lineBreakBefore) then typeArguments g
    else pure none
  return .typeReference ⟨start, ← lastEnd⟩ name args

/-! ### Signatures -/

/-- A type parameter `T extends C = D`. A `const` or `in` modifier is reported and skipped. -/
def typeParameter : ParserM Node := do
  let start ← tokenPos
  let k ← token
  if k == .constKeyword || k == .inKeyword then
    if ← lookAhead (do nextToken; isIdentifier) then
      reportUnsupported "type parameter modifier"
      nextToken
  let name ← identifier
  let constraint ← if ← accept .extendsKeyword then some <$> g.type else pure none
  let default ← if ← accept .equalsToken then some <$> g.type else pure none
  return .typeParameter ⟨start, ← lastEnd⟩ name constraint default

/-- Type parameters `<T, U>`, if the current token is `<`. -/
def typeParameters : ParserM (Option (List Node)) := do
  if !(← isToken .lessThanToken) then return none
  nextToken
  let (params, _) ← delimited .greaterThanToken (typeParameter g)
  let _ ← expect .greaterThanToken
  return some params

/-- A parameter `...name?: T = init`. A decorator and an accessibility or `readonly` modifier
are reported and skipped. -/
def parameter : ParserM Node := do
  let start ← tokenPos
  if ← isToken .atToken then
    reportUnsupported "decorator"
    nextToken
  let k ← token
  if k == .publicKeyword || k == .privateKeyword || k == .protectedKeyword
      || k == .readonlyKeyword then
    if ← lookAhead (do nextToken; return (← isIdentifier) || (← isToken .openBraceToken)) then
      reportUnsupported "parameter property"
      nextToken
  let rest ← accept .dotDotDotToken
  let name ← if ← isToken .thisKeyword then identifierName else g.bindingName
  let question ← accept .questionToken
  let type ← if ← accept .colonToken then some <$> g.type else pure none
  let init ← initializer g
  return .parameter ⟨start, ← lastEnd⟩ rest name question type init

/-- A parameter list `( ... )`, and whether a comma ended it. -/
def parameters : ParserM (List Node × Bool) := do
  let _ ← expect .openParenToken
  let params ← delimited .closeParenToken (parameter g)
  let _ ← expect .closeParenToken
  return params

/-- A return type: a type, or a predicate `x is T`, `asserts x` or `asserts x is T`. -/
def returnType : ParserM Node := do
  let start ← tokenPos
  let asserts ← if ← isToken .assertsKeyword then
      lookAhead do
        nextToken
        return !(← lineBreakBefore) && ((← isIdentifier) || (← isToken .thisKeyword))
    else pure false
  let predicate ← if !asserts && ((← isIdentifier) || (← isToken .thisKeyword)) then
      lookAhead do
        nextToken
        return (← isToken .isKeyword) && !(← lineBreakBefore)
    else pure false
  if !asserts && !predicate then g.type
  else
    if asserts then nextToken
    let name ← identifierName
    let type ← if ← accept .isKeyword then some <$> g.type else pure none
    return .typePredicate ⟨start, ← lastEnd⟩ asserts name type

/-! ### Members of object types -/

/-- The rest of a call or method signature: type parameters, parameters and return type. -/
def signatureMember (kind : SignatureKind) (start : Nat) (mods : Modifiers) (name : Option Node)
    (question : Bool) : ParserM Node := do
  let typeParams ← typeParameters g
  let (params, _) ← parameters g
  let type ← if ← accept .colonToken then some <$> returnType g else pure none
  return .signature ⟨start, ← lastEnd⟩ kind mods name question typeParams (some params) type

/-- Whether `[` starts an index signature `[name: T]`. -/
def startsIndexSignature : ParserM Bool := lookAhead do
  nextToken
  if !(← isIdentifier) then return false
  nextToken
  isToken .colonToken

/-- An index signature `[key: K]: T`, whose key is a parameter. -/
def indexSignature (start : Nat) (mods : Modifiers) : ParserM Node := do
  let _ ← expect .openBracketToken
  let keyStart ← tokenPos
  let name ← identifier
  let _ ← expect .colonToken
  let keyType ← g.type
  let key := Node.parameter ⟨keyStart, ← lastEnd⟩ false name false (some keyType) none
  let _ ← expect .closeBracketToken
  let _ ← expect .colonToken
  let type ← g.type
  return .indexSignature ⟨start, ← lastEnd⟩ mods [key] type

/-- A member of an object type: a call signature, a construct signature (reported), an index
signature, or a property or method signature, after an optional `readonly` and a reported
accessor keyword. -/
def typeMember : ParserM Node := do
  let start ← tokenPos
  if (← isToken .openParenToken) || (← isToken .lessThanToken) then
    return ← signatureMember g .call start {} none false
  if ← isToken .newKeyword then
    if ← lookAhead (do
        nextToken
        return (← isToken .openParenToken) || (← isToken .lessThanToken)) then
      reportUnsupported "construct signature"
      nextToken
      return ← signatureMember g .call start {} none false
  let readonly ← if ← isToken .readonlyKeyword then
      if ← startsMemberName then
        nextToken
        pure true
      else pure false
    else pure false
  let mods : Modifiers := { readonly }
  if (← isToken .getKeyword) || (← isToken .setKeyword) then
    if ← startsMemberName then
      reportUnsupported "accessor signature"
      nextToken
  if ← isToken .openBracketToken then
    if ← startsIndexSignature then
      return ← indexSignature g start mods
  let name ← propertyName g
  let question ← accept .questionToken
  if (← isToken .openParenToken) || (← isToken .lessThanToken) then
    return ← signatureMember g .method start mods (some name) question
  let type ← if ← accept .colonToken then some <$> g.type else pure none
  return .signature ⟨start, ← lastEnd⟩ .property mods (some name) question none none type

/-- The members of an object type up to `}`, each ended by `;`, `,`, a line break or the `}`. -/
def typeMemberList : Nat → List Node → ParserM (List Node)
  | 0, acc => return acc.reverse
  | n + 1, acc => do
    if (← isToken .closeBraceToken) || (← isToken .endOfFileToken) then return acc.reverse
    let before ← tokenPos
    let member ← typeMember g
    if !(← accept .semicolonToken) then
      if !(← accept .commaToken) then
        if !(← isToken .closeBraceToken) && !(← lineBreakBefore) then
          let _ ← expect .semicolonToken
    if (← tokenPos) == before then nextToken
    typeMemberList n (member :: acc)

/-- The braced members `{ ... }` of an interface or object type. -/
def typeMembers : ParserM (List Node) := do
  let _ ← expect .openBraceToken
  let members ← typeMemberList g (← budget) []
  let _ ← expect .closeBraceToken
  return members

/-! ### Types -/

/-- Whether `{` starts a mapped type `{ [K in T]: U }`, with an optional `+`, `-` or
`readonly` before the bracket. -/
def startsMappedType : ParserM Bool := lookAhead do
  nextToken
  let k ← token
  if k == .readonlyKeyword then nextToken
  else if k == .plusToken || k == .minusToken then
    nextToken
    let _ ← accept .readonlyKeyword
  if !(← accept .openBracketToken) then return false
  if !(← isIdentifier) then return false
  nextToken
  isToken .inKeyword

/-- An element of a tuple type: `...T`, `T?` or `T`. A named member is reported. -/
def tupleElement : ParserM Node := do
  let start ← tokenPos
  let named ← lookAhead do
    let _ ← accept .dotDotDotToken
    if !(← isIdentifierOrKeyword) then return false
    nextToken
    let _ ← accept .questionToken
    isToken .colonToken
  if named then reportUnsupported "named tuple member"
  if ← accept .dotDotDotToken then
    let type ← g.type
    return .restType ⟨start, ← lastEnd⟩ type
  let type ← g.type
  if ← accept .questionToken then
    return .optionalType ⟨start, ← lastEnd⟩ type
  return type

/-- A tuple type `[A, B?, ...C]`. -/
def tupleType : ParserM Node := do
  let start ← tokenPos
  let _ ← expect .openBracketToken
  let (elements, _) ← delimited .closeBracketToken (tupleElement g)
  let _ ← expect .closeBracketToken
  return .tupleType ⟨start, ← lastEnd⟩ elements

/-- A type reference, if an identifier or `this` stands here; otherwise a diagnostic. -/
def referenceOrMissing : ParserM Node := do
  if (← isIdentifier) || (← isToken .thisKeyword) then typeReference g
  else
    errorAtToken .typeExpected
    missingIdent

/-- A type without array or indexed access suffixes. -/
def nonArrayType : ParserM Node := do
  let start ← tokenPos
  let k ← token
  if isKeywordType k then
    if !(← peekIs .dotToken) then return ← keywordNode
    return ← referenceOrMissing g
  match k with
  | .stringLiteral | .numericLiteral | .bigIntLiteral | .noSubstitutionTemplateLiteral =>
    let lit ← literal
    return .literalType ⟨start, ← lastEnd⟩ lit
  | .trueKeyword | .falseKeyword =>
    let lit ← keywordNode
    return .literalType ⟨start, ← lastEnd⟩ lit
  | .minusToken =>
    let negative ← lookAhead do
      nextToken
      return (← isToken .numericLiteral) || (← isToken .bigIntLiteral)
    if negative then
      nextToken
      let operand ← literal
      let lit := Node.prefixUnary ⟨start, ← lastEnd⟩ .minusToken operand
      return .literalType ⟨start, ← lastEnd⟩ lit
    referenceOrMissing g
  | .templateHead => unsupportedType "template literal type"
  | .typeOfKeyword =>
    nextToken
    if ← isToken .importKeyword then return ← unsupportedType "import type"
    let name ← entityName true
    return .typeQuery ⟨start, ← lastEnd⟩ name
  | .openBraceToken =>
    if ← startsMappedType then
      reportUnsupported "mapped type"
      skipToStatementEnd
      return ← missingIdent
    let members ← typeMembers g
    return .typeLiteral ⟨start, ← lastEnd⟩ members false
  | .openBracketToken => tupleType g
  | .openParenToken =>
    nextToken
    let type ← g.type
    let _ ← expect .closeParenToken
    return .parenthesizedType ⟨start, ← lastEnd⟩ type
  | .importKeyword => unsupportedType "import type"
  | _ => referenceOrMissing g

/-- Array `T[]` and indexed access `T[K]` suffixes on the same line, after a type that started
at `start`. -/
def postfixRest (start : Nat) : Nat → Node → ParserM Node
  | 0, type => return type
  | n + 1, type => do
    if (← isToken .openBracketToken) && !(← lineBreakBefore) then
      nextToken
      if ← accept .closeBracketToken then
        postfixRest start n (.arrayType ⟨start, ← lastEnd⟩ type)
      else
        let index ← g.type
        let _ ← expect .closeBracketToken
        postfixRest start n (.indexedAccessType ⟨start, ← lastEnd⟩ type index)
    else return type

/-- A type with its array and indexed access suffixes. -/
def postfixType : ParserM Node := do
  let start ← tokenPos
  let type ← nonArrayType g
  postfixRest g start (← budget) type

/-- A type with its prefix operators `keyof`, `unique` and `readonly`; `infer` is reported. -/
def typeOperator : ParserM Node := do
  let start ← tokenPos
  let k ← token
  if k == .keyOfKeyword || k == .uniqueKeyword || k == .readonlyKeyword then
    nextToken
    let type ← g.typeOperator
    return .typeOperator ⟨start, ← lastEnd⟩ k type
  if k == .inferKeyword then return ← unsupportedType "infer type"
  postfixType g

/-- Constituents joined by `sep`, with an optional leading `sep`; a single constituent stands for
itself. After a leading separator the node starts at its first constituent. -/
def compositeType (sep : TokenKind) (build : Span → List Node → Node)
    (constituent : ParserM Node) : ParserM Node := do
  let start ← tokenPos
  let leading ← accept sep
  let first ← constituent
  if !(← isToken sep) then return first
  let rest ← separated sep constituent
  let start := if leading then first.pos else start
  return build ⟨start, ← lastEnd⟩ (first :: rest)

/-- An intersection type `A & B`. -/
def intersectionType : ParserM Node :=
  compositeType .ampersandToken .intersectionType g.typeOperator

/-- A union type `A | B`. -/
def unionType : ParserM Node :=
  compositeType .barToken .unionType (intersectionType g)

/-- Skip, inside a look-ahead, the name or binding pattern that starts a parameter; false when
none stands here or the pattern has errors. -/
def skipParameterStart : ParserM Bool := do
  if (← isIdentifier) || (← isToken .thisKeyword) then
    nextToken
    return true
  if (← isToken .openBraceToken) || (← isToken .openBracketToken) then
    let before := (← get).diagnostics.size
    let _ ← g.bindingName
    return (← get).diagnostics.size == before
  return false

/-- Whether a function type starts here: at `<`, or at a `(` that opens a parameter list. -/
def startsFunctionType : ParserM Bool := do
  if ← isToken .lessThanToken then return true
  if !(← isToken .openParenToken) then return false
  lookAhead do
    nextToken
    if (← isToken .closeParenToken) || (← isToken .dotDotDotToken) then return true
    if !(← skipParameterStart g) then return false
    match ← token with
    | .colonToken | .commaToken | .questionToken | .equalsToken => return true
    | .closeParenToken => nextIs .equalsGreaterThanToken
    | _ => return false

/-- A function type `<T>(params) => R`. -/
def functionType : ParserM Node := do
  let start ← tokenPos
  let typeParams ← typeParameters g
  let (params, _) ← parameters g
  let _ ← expect .equalsGreaterThanToken
  let result ← returnType g
  return .functionType ⟨start, ← lastEnd⟩ typeParams params result

/-- A type: a function type, or a union. A constructor type is reported; so is a conditional
type, which is read and dropped, keeping its checked type. -/
def typeBody : ParserM Node := do
  if ← startsFunctionType g then return ← functionType g
  if ← isToken .newKeyword then return ← unsupportedType "constructor type"
  let type ← unionType g
  if (← isToken .extendsKeyword) && !(← lineBreakBefore) then
    reportUnsupported "conditional type"
    nextToken
    let _ ← unionType g
    if ← accept .questionToken then
      let _ ← g.type
      if ← accept .colonToken then
        let _ ← g.type
  return type

/-- A type, one nesting level deeper. -/
def typeNode : ParserM Node :=
  guarded missingIdent (typeBody g)

end Parser

end ParamNarrow
