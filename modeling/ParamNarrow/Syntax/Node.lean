import ParamNarrow.Token.Kind
import ParamNarrow.Token.Scanner
/-!
# Syntax trees

A parsed TypeScript file is a list of statements, each a `Node`. One inductive type covers
statements, declarations, expressions, types, type members and binding patterns, because recovery
from errors puts nodes of one family where another is expected: a missing name is an identifier of
empty text wherever it stands, in a type position too.

Every node spans a byte range of the text it was parsed from. A synthesized node, built by a rewrite
rather than by the parser, spans `[0, 0)`; a node copied with a change keeps the span of the node it
replaces, so the printer still finds the comments around it.

`Node.children` lists the child nodes in the order used by traversals: the order in which the parts
stand in the source.
-/

namespace ParamNarrow

/-- The byte range `[pos, stop)` of a node. -/
structure Span where
  pos : Nat
  stop : Nat
deriving Repr, DecidableEq, Inhabited

/-- The span of synthesized nodes. -/
def Span.none : Span :=
  ⟨0, 0⟩

/-- Whether the span comes from the source: it is not empty. -/
def Span.isSource (s : Span) : Bool :=
  s.pos < s.stop

/-- Declaration modifiers. -/
structure Modifiers where
  exported : Bool := false
  isDefault : Bool := false
  declared : Bool := false
  async : Bool := false
  readonly : Bool := false
deriving Repr, DecidableEq, Inhabited

/-- The keyword that declares a variable. -/
inductive DeclKeyword where
  | var
  | letKw
  | const
deriving Repr, DecidableEq, Inhabited

/-- The kinds of function-like node. -/
inductive FunctionKind where
  | declaration
  | expression
  | arrow
  | method
  | getter
  | setter
deriving Repr, DecidableEq, Inhabited

/-- The kinds of signature in an object type. -/
inductive SignatureKind where
  | property
  | method
  | call
deriving Repr, DecidableEq, Inhabited

/-- A node of a syntax tree. Optional parts are `Option`s; lists keep source order. -/
inductive Node where
  /-- An identifier, or a keyword used as a name. A missing name has empty text. -/
  | ident (span : Span) (text : String)
  /-- A literal token: numeric, big integer, string, regular expression or template part; `text`
  is its cooked value and `raw` its source text. -/
  | literal (span : Span) (kind : TokenKind) (text raw : String)
  /-- A keyword standing alone: `this`, `null`, `true`, a keyword type such as `number`. -/
  | keyword (span : Span) (kind : TokenKind)
  | qualifiedName (span : Span) (left right : Node)
  | computedName (span : Span) (expr : Node)
  | typeParameter (span : Span) (name : Node) (constraint default : Option Node)
  | parameter (span : Span) (rest : Bool) (name : Node) (question : Bool)
      (type init : Option Node)
  /-- A property, method or call signature; call signatures have no name. -/
  | signature (span : Span) (kind : SignatureKind) (modifiers : Modifiers) (name : Option Node)
      (question : Bool) (typeParams : Option (List Node)) (params : Option (List Node))
      (type : Option Node)
  | indexSignature (span : Span) (modifiers : Modifiers) (params : List Node) (type : Node)
  | typeReference (span : Span) (name : Node) (args : Option (List Node))
  | functionType (span : Span) (typeParams : Option (List Node)) (params : List Node)
      (result : Node)
  | typeQuery (span : Span) (name : Node)
  /-- An object type; `synthesized` when a rewrite built it. -/
  | typeLiteral (span : Span) (members : List Node) (synthesized : Bool)
  | arrayType (span : Span) (element : Node)
  | tupleType (span : Span) (elements : List Node)
  | optionalType (span : Span) (type : Node)
  | restType (span : Span) (type : Node)
  | parenthesizedType (span : Span) (type : Node)
  | unionType (span : Span) (types : List Node)
  | intersectionType (span : Span) (types : List Node)
  | typeOperator (span : Span) (operator : TokenKind) (type : Node)
  | indexedAccessType (span : Span) (object index : Node)
  | literalType (span : Span) (literal : Node)
  | typePredicate (span : Span) (asserts : Bool) (name : Node) (type : Option Node)
  | objectBindingPattern (span : Span) (elements : List Node)
  | arrayBindingPattern (span : Span) (elements : List Node)
  | bindingElement (span : Span) (rest : Bool) (propertyName : Option Node) (name : Node)
      (init : Option Node)
  /-- An array literal; `multiLine` when its source spans several lines. -/
  | arrayLiteral (span : Span) (elements : List Node) (multiLine : Bool)
  | objectLiteral (span : Span) (elements : List Node) (multiLine : Bool)
  | propertyAccess (span : Span) (object : Node) (questionDot : Bool) (name : Node)
  | elementAccess (span : Span) (object : Node) (questionDot : Bool) (index : Node)
  | call (span : Span) (callee : Node) (questionDot : Bool) (typeArgs : Option (List Node))
      (args : List Node)
  | new (span : Span) (callee : Node) (typeArgs : Option (List Node))
      (args : Option (List Node))
  | taggedTemplate (span : Span) (tag : Node) (typeArgs : Option (List Node)) (template : Node)
  | parenthesized (span : Span) (expr : Node)
  /-- A function declaration or expression, arrow function, method or accessor. An arrow
  function written with a single unparenthesized parameter has `bareParameter`. -/
  | function (span : Span) (kind : FunctionKind) (modifiers : Modifiers) (asterisk : Bool)
      (name : Option Node) (typeParams : Option (List Node)) (params : List Node)
      (trailingComma : Bool) (result : Option Node) (body : Option Node) (bareParameter : Bool)
  | prefixUnary (span : Span) (operator : TokenKind) (operand : Node)
  | postfixUnary (span : Span) (operator : TokenKind) (operand : Node)
  | yieldExpr (span : Span) (delegate : Bool) (operand : Option Node)
  | binary (span : Span) (left : Node) (operator : TokenKind) (right : Node)
  | conditional (span : Span) (condition whenTrue whenFalse : Node)
  | templateExpr (span : Span) (head : Node) (spans : List Node)
  | templateSpan (span : Span) (expr literal : Node)
  | spreadElement (span : Span) (expr : Node)
  | omitted (span : Span)
  | asExpr (span : Span) (expr type : Node)
  | satisfiesExpr (span : Span) (expr type : Node)
  | nonNull (span : Span) (expr : Node)
  | propertyAssignment (span : Span) (name init : Node)
  | shorthandProperty (span : Span) (name : Node) (init : Option Node)
  | spreadAssignment (span : Span) (expr : Node)
  | block (span : Span) (statements : List Node) (multiLine : Bool)
  | variableStatement (span : Span) (modifiers : Modifiers) (list : Node)
  | variableList (span : Span) (keyword : DeclKeyword) (declarations : List Node)
  | variableDeclaration (span : Span) (name : Node) (exclamation : Bool) (type init : Option Node)
  | emptyStatement (span : Span)
  | expressionStatement (span : Span) (expr : Node)
  | returnStatement (span : Span) (expr : Option Node)
  | throwStatement (span : Span) (expr : Option Node)
  /-- An `if` statement. A branch that failed to parse as a statement is absent. -/
  | ifStatement (span : Span) (condition : Node) (thenBranch elseBranch : Option Node)
  | doStatement (span : Span) (body : Option Node) (condition : Node)
  | whileStatement (span : Span) (condition : Node) (body : Option Node)
  | forStatement (span : Span) (init condition update body : Option Node)
  | forInStatement (span : Span) (await : Bool) (init : Option Node) (expr : Node)
      (body : Option Node)
  | forOfStatement (span : Span) (await : Bool) (init : Option Node) (expr : Node)
      (body : Option Node)
  | breakStatement (span : Span) (label : Option Node)
  | continueStatement (span : Span) (label : Option Node)
  | switchStatement (span : Span) (expr : Node) (clauses : List Node)
  | caseClause (span : Span) (expr : Node) (statements : List Node)
  | defaultClause (span : Span) (statements : List Node)
  | tryStatement (span : Span) (block : Node) (catchClause finallyBlock : Option Node)
  | catchClause (span : Span) (declaration : Option Node) (block : Node)
  | debuggerStatement (span : Span)
  | interfaceDeclaration (span : Span) (modifiers : Modifiers) (name : Node)
      (typeParams : Option (List Node)) (heritage : Option (List Node)) (members : List Node)
  | typeAlias (span : Span) (modifiers : Modifiers) (name : Node)
      (typeParams : Option (List Node)) (type : Node)
  | importDeclaration (span : Span) (clause : Option Node) (specifier : Node)
  | importClause (span : Span) (typeOnly : Bool) (name bindings : Option Node)
  | namespaceImport (span : Span) (name : Node)
  | namespaceExport (span : Span) (name : Node)
  | namedImports (span : Span) (elements : List Node)
  | namedExports (span : Span) (elements : List Node)
  | importSpecifier (span : Span) (typeOnly : Bool) (propertyName : Option Node) (name : Node)
  | exportSpecifier (span : Span) (typeOnly : Bool) (propertyName : Option Node) (name : Node)
  | exportDeclaration (span : Span) (typeOnly : Bool) (clause specifier : Option Node)
  | exportAssignment (span : Span) (expr : Node)
deriving Inhabited

namespace Node

/-- The byte range of a node. -/
def span : Node → Span
  | ident s .. | literal s .. | keyword s .. | qualifiedName s .. | computedName s ..
  | typeParameter s .. | parameter s .. | signature s .. | indexSignature s ..
  | typeReference s .. | functionType s .. | typeQuery s .. | typeLiteral s .. | arrayType s ..
  | tupleType s .. | optionalType s .. | restType s .. | parenthesizedType s .. | unionType s ..
  | intersectionType s .. | typeOperator s .. | indexedAccessType s .. | literalType s ..
  | typePredicate s .. | objectBindingPattern s .. | arrayBindingPattern s ..
  | bindingElement s .. | arrayLiteral s .. | objectLiteral s .. | propertyAccess s ..
  | elementAccess s .. | call s .. | new s .. | taggedTemplate s .. | parenthesized s ..
  | function s .. | prefixUnary s .. | postfixUnary s .. | yieldExpr s .. | binary s ..
  | conditional s .. | templateExpr s .. | templateSpan s .. | spreadElement s .. | omitted s
  | asExpr s .. | satisfiesExpr s .. | nonNull s .. | propertyAssignment s ..
  | shorthandProperty s .. | spreadAssignment s .. | block s .. | variableStatement s ..
  | variableList s .. | variableDeclaration s .. | emptyStatement s | expressionStatement s ..
  | returnStatement s .. | throwStatement s .. | ifStatement s .. | doStatement s ..
  | whileStatement s .. | forStatement s .. | forInStatement s .. | forOfStatement s ..
  | breakStatement s .. | continueStatement s .. | switchStatement s .. | caseClause s ..
  | defaultClause s .. | tryStatement s .. | catchClause s .. | debuggerStatement s
  | interfaceDeclaration s .. | typeAlias s .. | importDeclaration s .. | importClause s ..
  | namespaceImport s .. | namespaceExport s .. | namedImports s .. | namedExports s ..
  | importSpecifier s .. | exportSpecifier s .. | exportDeclaration s .. | exportAssignment s .. =>
    s

/-- The start offset of a node. -/
def pos (n : Node) : Nat :=
  n.span.pos

/-- The end offset of a node. -/
def stop (n : Node) : Nat :=
  n.span.stop

/-- The text of an identifier node. -/
def identText? : Node → Option String
  | ident _ text => some text
  | _ => none

/-- The cooked value of a literal node. -/
def literalText? : Node → Option String
  | literal _ _ text _ => some text
  | _ => none

/-- The text of a property name: an identifier's text, or the value of a string, numeric or
template literal without substitutions. -/
def propertyNameText? : Node → Option String
  | ident _ text => some text
  | literal _ kind text _ =>
    if kind == .stringLiteral || kind == .numericLiteral || kind == .noSubstitutionTemplateLiteral
    then some text else none
  | _ => none

/-- Whether the node is a block. -/
def isBlock : Node → Bool
  | block .. => true
  | _ => false

/-- The parts of an optional list. -/
def optList : Option (List Node) → List Node
  | some xs => xs
  | none => []

/-- The child nodes, in source order. -/
def children : Node → List Node
  | qualifiedName _ l r => [l, r]
  | computedName _ e => [e]
  | typeParameter _ n c d => [n] ++ c.toList ++ d.toList
  | parameter _ _ n _ t i => [n] ++ t.toList ++ i.toList
  | signature _ _ _ n _ tps ps t => n.toList ++ optList tps ++ optList ps ++ t.toList
  | indexSignature _ _ ps t => ps ++ [t]
  | typeReference _ n args => [n] ++ optList args
  | functionType _ tps ps r => optList tps ++ ps ++ [r]
  | typeQuery _ n => [n]
  | typeLiteral _ ms _ => ms
  | arrayType _ e => [e]
  | tupleType _ es => es
  | optionalType _ t | restType _ t | parenthesizedType _ t => [t]
  | unionType _ ts | intersectionType _ ts => ts
  | typeOperator _ _ t => [t]
  | indexedAccessType _ o i => [o, i]
  | literalType _ l => [l]
  | typePredicate _ _ n t => [n] ++ t.toList
  | objectBindingPattern _ es | arrayBindingPattern _ es => es
  | bindingElement _ _ p n i => p.toList ++ [n] ++ i.toList
  | arrayLiteral _ es _ | objectLiteral _ es _ => es
  | propertyAccess _ o _ n => [o, n]
  | elementAccess _ o _ i => [o, i]
  | call _ c _ tas args => [c] ++ optList tas ++ args
  | new _ c tas args => [c] ++ optList tas ++ optList args
  | taggedTemplate _ t tas tpl => [t] ++ optList tas ++ [tpl]
  | parenthesized _ e | nonNull _ e | spreadElement _ e | spreadAssignment _ e => [e]
  | function _ _ _ _ n tps ps _ r b _ => n.toList ++ optList tps ++ ps ++ r.toList ++ b.toList
  | prefixUnary _ _ o | postfixUnary _ _ o => [o]
  | yieldExpr _ _ o => o.toList
  | binary _ l _ r => [l, r]
  | conditional _ c t f => [c, t, f]
  | templateExpr _ h ss => h :: ss
  | templateSpan _ e l => [e, l]
  | asExpr _ e t | satisfiesExpr _ e t => [e, t]
  | propertyAssignment _ n i => [n, i]
  | shorthandProperty _ n i => [n] ++ i.toList
  | block _ ss _ => ss
  | variableStatement _ _ l => [l]
  | variableList _ _ ds => ds
  | variableDeclaration _ n _ t i => [n] ++ t.toList ++ i.toList
  | expressionStatement _ e => [e]
  | returnStatement _ e | throwStatement _ e => e.toList
  | ifStatement _ c t e => [c] ++ t.toList ++ e.toList
  | doStatement _ b c => b.toList ++ [c]
  | whileStatement _ c b => [c] ++ b.toList
  | forStatement _ i c u b => i.toList ++ c.toList ++ u.toList ++ b.toList
  | forInStatement _ _ i e b | forOfStatement _ _ i e b => i.toList ++ [e] ++ b.toList
  | breakStatement _ l | continueStatement _ l => l.toList
  | switchStatement _ e cs => e :: cs
  | caseClause _ e ss => e :: ss
  | defaultClause _ ss => ss
  | tryStatement _ b c f => [b] ++ c.toList ++ f.toList
  | catchClause _ d b => d.toList ++ [b]
  | interfaceDeclaration _ _ n tps hs ms => [n] ++ optList tps ++ optList hs ++ ms
  | typeAlias _ _ n tps t => [n] ++ optList tps ++ [t]
  | importDeclaration _ c s => c.toList ++ [s]
  | importClause _ _ n b => n.toList ++ b.toList
  | namespaceImport _ n | namespaceExport _ n => [n]
  | namedImports _ es | namedExports _ es => es
  | importSpecifier _ _ p n | exportSpecifier _ _ p n => p.toList ++ [n]
  | exportDeclaration _ _ c s => c.toList ++ s.toList
  | exportAssignment _ e => [e]
  | _ => []

end Node

/-- A parsed file: its name and text, its top-level statements and the comments of its text. -/
structure SourceFile where
  fileName : String
  text : String
  statements : List Node
  comments : Array Comment
  /-- The end of the file: where its last token ends. -/
  stop : Nat

end ParamNarrow
