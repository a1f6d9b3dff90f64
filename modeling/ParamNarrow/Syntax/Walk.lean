import ParamNarrow.Syntax.Node
/-!
# Walking a tree

`Node.preorder` lists the nodes of a tree in pre-order: a node, then the subtrees of its children
in the order of `Node.children`. The analyses that look for reads and escapes of a parameter go
through this list.
-/

namespace ParamNarrow

namespace Node

mutual

/-- The proper descendants of a node, in pre-order. -/
def descendants : Node → List Node
  | qualifiedName _ l r => (l :: descendants l) ++ (r :: descendants r)
  | computedName _ e => e :: descendants e
  | typeParameter _ n c d => (n :: descendants n) ++ descendantsOpt c ++ descendantsOpt d
  | parameter _ _ n _ t i => (n :: descendants n) ++ descendantsOpt t ++ descendantsOpt i
  | signature _ _ _ n _ tps ps t =>
    descendantsOpt n ++ descendantsOptList tps ++ descendantsOptList ps ++ descendantsOpt t
  | indexSignature _ _ ps t => descendantsList ps ++ (t :: descendants t)
  | typeReference _ n args => (n :: descendants n) ++ descendantsOptList args
  | functionType _ tps ps r => descendantsOptList tps ++ descendantsList ps ++ (r :: descendants r)
  | typeQuery _ n => n :: descendants n
  | typeLiteral _ ms _ => descendantsList ms
  | arrayType _ e => e :: descendants e
  | tupleType _ es => descendantsList es
  | optionalType _ t => t :: descendants t
  | restType _ t => t :: descendants t
  | parenthesizedType _ t => t :: descendants t
  | unionType _ ts => descendantsList ts
  | intersectionType _ ts => descendantsList ts
  | typeOperator _ _ t => t :: descendants t
  | indexedAccessType _ o i => (o :: descendants o) ++ (i :: descendants i)
  | literalType _ l => l :: descendants l
  | typePredicate _ _ n t => (n :: descendants n) ++ descendantsOpt t
  | objectBindingPattern _ es => descendantsList es
  | arrayBindingPattern _ es => descendantsList es
  | bindingElement _ _ p n i => descendantsOpt p ++ (n :: descendants n) ++ descendantsOpt i
  | arrayLiteral _ es _ => descendantsList es
  | objectLiteral _ es _ => descendantsList es
  | propertyAccess _ o _ n => (o :: descendants o) ++ (n :: descendants n)
  | elementAccess _ o _ i => (o :: descendants o) ++ (i :: descendants i)
  | call _ c _ tas args => (c :: descendants c) ++ descendantsOptList tas ++ descendantsList args
  | new _ c tas args => (c :: descendants c) ++ descendantsOptList tas ++ descendantsOptList args
  | taggedTemplate _ t tas tpl =>
    (t :: descendants t) ++ descendantsOptList tas ++ (tpl :: descendants tpl)
  | parenthesized _ e => e :: descendants e
  | function _ _ _ _ n tps ps _ r b _ =>
    descendantsOpt n ++ descendantsOptList tps ++ descendantsList ps ++ descendantsOpt r
      ++ descendantsOpt b
  | prefixUnary _ _ o => o :: descendants o
  | postfixUnary _ _ o => o :: descendants o
  | yieldExpr _ _ o => descendantsOpt o
  | binary _ l _ r => (l :: descendants l) ++ (r :: descendants r)
  | conditional _ c t f => (c :: descendants c) ++ (t :: descendants t) ++ (f :: descendants f)
  | templateExpr _ h ss => (h :: descendants h) ++ descendantsList ss
  | templateSpan _ e l => (e :: descendants e) ++ (l :: descendants l)
  | spreadElement _ e => e :: descendants e
  | asExpr _ e t => (e :: descendants e) ++ (t :: descendants t)
  | satisfiesExpr _ e t => (e :: descendants e) ++ (t :: descendants t)
  | nonNull _ e => e :: descendants e
  | propertyAssignment _ n i => (n :: descendants n) ++ (i :: descendants i)
  | shorthandProperty _ n i => (n :: descendants n) ++ descendantsOpt i
  | spreadAssignment _ e => e :: descendants e
  | block _ ss _ => descendantsList ss
  | variableStatement _ _ l => l :: descendants l
  | variableList _ _ ds => descendantsList ds
  | variableDeclaration _ n _ t i => (n :: descendants n) ++ descendantsOpt t ++ descendantsOpt i
  | expressionStatement _ e => e :: descendants e
  | returnStatement _ e => descendantsOpt e
  | throwStatement _ e => descendantsOpt e
  | ifStatement _ c t e => (c :: descendants c) ++ descendantsOpt t ++ descendantsOpt e
  | doStatement _ b c => descendantsOpt b ++ (c :: descendants c)
  | whileStatement _ c b => (c :: descendants c) ++ descendantsOpt b
  | forStatement _ i c u b =>
    descendantsOpt i ++ descendantsOpt c ++ descendantsOpt u ++ descendantsOpt b
  | forInStatement _ _ i e b => descendantsOpt i ++ (e :: descendants e) ++ descendantsOpt b
  | forOfStatement _ _ i e b => descendantsOpt i ++ (e :: descendants e) ++ descendantsOpt b
  | breakStatement _ l => descendantsOpt l
  | continueStatement _ l => descendantsOpt l
  | switchStatement _ e cs => (e :: descendants e) ++ descendantsList cs
  | caseClause _ e ss => (e :: descendants e) ++ descendantsList ss
  | defaultClause _ ss => descendantsList ss
  | tryStatement _ b c f => (b :: descendants b) ++ descendantsOpt c ++ descendantsOpt f
  | catchClause _ d b => descendantsOpt d ++ (b :: descendants b)
  | interfaceDeclaration _ _ n tps hs ms =>
    (n :: descendants n) ++ descendantsOptList tps ++ descendantsOptList hs ++ descendantsList ms
  | typeAlias _ _ n tps t => (n :: descendants n) ++ descendantsOptList tps ++ (t :: descendants t)
  | importDeclaration _ c s => descendantsOpt c ++ (s :: descendants s)
  | importClause _ _ n b => descendantsOpt n ++ descendantsOpt b
  | namespaceImport _ n => n :: descendants n
  | namespaceExport _ n => n :: descendants n
  | namedImports _ es => descendantsList es
  | namedExports _ es => descendantsList es
  | importSpecifier _ _ p n => descendantsOpt p ++ (n :: descendants n)
  | exportSpecifier _ _ p n => descendantsOpt p ++ (n :: descendants n)
  | exportDeclaration _ _ c s => descendantsOpt c ++ descendantsOpt s
  | exportAssignment _ e => e :: descendants e
  | _ => []

/-- The subtrees of the nodes of a list, in pre-order. -/
def descendantsList : List Node → List Node
  | [] => []
  | n :: rest => (n :: descendants n) ++ descendantsList rest

/-- The subtrees of the nodes of an optional list, in pre-order. -/
def descendantsOptList : Option (List Node) → List Node
  | some xs => descendantsList xs
  | none => []

/-- The subtree of an optional node, in pre-order. -/
def descendantsOpt : Option Node → List Node
  | some n => n :: descendants n
  | none => []

end

/-- The nodes of a tree in pre-order, the tree's root first. -/
def preorder (n : Node) : List Node :=
  n :: n.descendants

end Node

end ParamNarrow
