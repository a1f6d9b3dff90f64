import ParamNarrow.Print.Piece
/-!
# Layout of syntax trees

`Node.layout` lays a tree out as printed pieces. The layout is canonical rather than a copy of
the source: every statement starts on its own line, blocks and members are indented one level,
semicolons are always written, and parentheses are written only where the tree has a
parenthesized node. Comments are carried over between statements, between the members of
interfaces and multi-line object types, and between `switch` clauses; comments inside
expressions and signatures are dropped.

An object type is written over several lines when a rewrite built it or when its source spans
several lines; so are array and object literals whose source did. The layout reads the source
text only for that.
-/

namespace ParamNarrow

/-- The text of the modifiers, each followed by a space, in the order `export`, `default`,
`declare`, `async`, `readonly`. -/
def Modifiers.layout (m : Modifiers) : List Piece :=
  (if m.exported then [.text "export "] else []) ++
  (if m.isDefault then [.text "default "] else []) ++
  (if m.declared then [.text "declare "] else []) ++
  (if m.async then [.text "async "] else []) ++
  (if m.readonly then [.text "readonly "] else [])

/-- The keyword of a declaration list, with its space. -/
def DeclKeyword.text : DeclKeyword → String
  | .var => "var "
  | .letKw => "let "
  | .const => "const "

namespace Node

/-- Whether a node is a prefix `+` or `++` (for `plus`) or `-` or `--` expression, which would
fuse with a preceding `+` or `-`. -/
def fusesWith (plus : Bool) : Node → Bool
  | prefixUnary _ op _ =>
    if plus then op == .plusToken || op == .plusPlusToken
    else op == .minusToken || op == .minusMinusToken
  | _ => false

/-- Whether a space must follow the prefix operator `op` before `operand`: after a keyword
operator, and between `+ +x` or `- -x`. -/
def spaceAfterPrefix (op : TokenKind) (operand : Node) : Bool :=
  op == .typeOfKeyword || op == .voidKeyword || op == .deleteKeyword || op == .awaitKeyword
    || (op == .plusToken && operand.fusesWith true)
    || (op == .minusToken && operand.fusesWith false)

/-- Whether the last element of a list is a hole, which needs a comma of its own. -/
def endsWithHole (xs : List Node) : Bool :=
  match xs.getLast? with
  | some (omitted _) => true
  | _ => false

/-- Whether an optional statement is a block. -/
def isSomeBlock : Option Node → Bool
  | some (block ..) => true
  | _ => false

mutual

/-- The printed pieces of a node. -/
def layout (src : String) : Node → List Piece
  | ident _ text => [.text text]
  | literal _ _ _ raw => [.text raw]
  | keyword _ k => [.text (k.text?.getD "")]
  | qualifiedName _ l r => layout src l ++ [.text "."] ++ layout src r
  | computedName _ e => [.text "["] ++ layout src e ++ [.text "]"]
  | typeParameter _ name constraint default =>
    layout src name
      ++ (match constraint with
        | some c => [.text " extends "] ++ layout src c
        | none => [])
      ++ (match default with
        | some d => [.text " = "] ++ layout src d
        | none => [])
  | parameter _ rest name question type init =>
    (if rest then [.text "..."] else []) ++ layout src name
      ++ (if question then [.text "?"] else [])
      ++ (match type with
        | some t => [.text ": "] ++ layout src t
        | none => [])
      ++ (match init with
        | some i => [.text " = "] ++ layout src i
        | none => [])
  | signature _ _ mods name question typeParams params type =>
    mods.layout ++ layoutOpt src name
      ++ (if question then [.text "?"] else [])
      ++ (match typeParams with
        | some xs => [.text "<"] ++ layoutJoined src ", " xs ++ [.text ">"]
        | none => [])
      ++ (match params with
        | some xs => [.text "("] ++ layoutJoined src ", " xs ++ [.text ")"]
        | none => [])
      ++ (match type with
        | some t => [.text ": "] ++ layout src t
        | none => [])
  | indexSignature _ mods params type =>
    mods.layout ++ [.text "["] ++ layoutJoined src ", " params ++ [.text "]", .text ": "]
      ++ layout src type
  | typeReference _ name args =>
    layout src name
      ++ (match args with
        | some xs => [.text "<"] ++ layoutJoined src ", " xs ++ [.text ">"]
        | none => [])
  | functionType _ typeParams params result =>
    (match typeParams with
      | some xs => [.text "<"] ++ layoutJoined src ", " xs ++ [.text ">"]
      | none => [])
      ++ [.text "("] ++ layoutJoined src ", " params ++ [.text ")", .text " => "]
      ++ layout src result
  | typeQuery _ name => [.text "typeof "] ++ layout src name
  | typeLiteral span members synthesized =>
    if members.isEmpty then [.text "\x7b\x7d"]
    else if synthesized || Text.bytesAny src span.pos span.stop (· == 10) then
      [.text "\x7b", .newline, .indent] ++ layoutMembers src members
        ++ (if span.isSource then [.commentsBefore (span.stop - 1)] else [])
        ++ [.dedent, .text "\x7d"]
    else [.text "\x7b "] ++ layoutInline src members ++ [.text "\x7d"]
  | arrayType _ element => layout src element ++ [.text "[]"]
  | tupleType _ elements => [.text "["] ++ layoutJoined src ", " elements ++ [.text "]"]
  | optionalType _ type => layout src type ++ [.text "?"]
  | restType _ type => [.text "..."] ++ layout src type
  | parenthesizedType _ type => [.text "("] ++ layout src type ++ [.text ")"]
  | unionType _ types => layoutJoined src " | " types
  | intersectionType _ types => layoutJoined src " & " types
  | typeOperator _ op type =>
    (match op.text? with
      | some t => [.text t, .text " "]
      | none => [])
      ++ layout src type
  | indexedAccessType _ object index =>
    layout src object ++ [.text "["] ++ layout src index ++ [.text "]"]
  | literalType _ lit => layout src lit
  | typePredicate _ asserts name type =>
    (if asserts then [.text "asserts "] else []) ++ layout src name
      ++ (match type with
        | some t => [.text " is "] ++ layout src t
        | none => [])
  | objectBindingPattern _ elements =>
    if elements.isEmpty then [.text "\x7b\x7d"]
    else [.text "\x7b "] ++ layoutJoined src ", " elements ++ [.text " \x7d"]
  | arrayBindingPattern _ elements =>
    [.text "["] ++ layoutJoined src ", " elements
      ++ (if endsWithHole elements then [.text ","] else []) ++ [.text "]"]
  | bindingElement _ rest property name init =>
    (if rest then [.text "..."] else [])
      ++ (match property with
        | some p => layout src p ++ [.text ": "]
        | none => [])
      ++ layout src name
      ++ (match init with
        | some i => [.text " = "] ++ layout src i
        | none => [])
  | arrayLiteral _ elements multiLine =>
    if multiLine && !elements.isEmpty then
      [.text "[", .newline, .indent] ++ layoutLines src elements ++ [.dedent, .text "]"]
    else
      [.text "["] ++ layoutJoined src ", " elements
        ++ (if endsWithHole elements then [.text ","] else []) ++ [.text "]"]
  | objectLiteral _ elements multiLine =>
    if elements.isEmpty then [.text "\x7b\x7d"]
    else if multiLine then
      [.text "\x7b", .newline, .indent] ++ layoutLines src elements ++ [.dedent, .text "\x7d"]
    else [.text "\x7b "] ++ layoutJoined src ", " elements ++ [.text " \x7d"]
  | propertyAccess _ object questionDot name =>
    layout src object ++ [.text (if questionDot then "?." else ".")] ++ layout src name
  | elementAccess _ object questionDot index =>
    layout src object ++ [.text (if questionDot then "?.[" else "[")] ++ layout src index
      ++ [.text "]"]
  | call _ callee questionDot typeArgs args =>
    layout src callee ++ (if questionDot then [.text "?."] else [])
      ++ (match typeArgs with
        | some xs => [.text "<"] ++ layoutJoined src ", " xs ++ [.text ">"]
        | none => [])
      ++ [.text "("] ++ layoutJoined src ", " args ++ [.text ")"]
  | new _ callee typeArgs args =>
    [.text "new "] ++ layout src callee
      ++ (match typeArgs with
        | some xs => [.text "<"] ++ layoutJoined src ", " xs ++ [.text ">"]
        | none => [])
      ++ (match args with
        | some xs => [.text "("] ++ layoutJoined src ", " xs ++ [.text ")"]
        | none => [])
  | taggedTemplate _ tag typeArgs template =>
    layout src tag
      ++ (match typeArgs with
        | some xs => [.text "<"] ++ layoutJoined src ", " xs ++ [.text ">"]
        | none => [])
      ++ layout src template
  | parenthesized _ e => [.text "("] ++ layout src e ++ [.text ")"]
  | function _ kind mods asterisk name typeParams params _ result body bare =>
    mods.layout
      ++ (match kind with
        | .declaration | .expression =>
          [.text "function"] ++ (if asterisk then [.text "*"] else [])
            ++ (match name with
              | some n => [.text " "] ++ layout src n
              | none => if kind == .expression then [.text " "] else [])
        | .getter => [.text "get "] ++ layoutOpt src name
        | .setter => [.text "set "] ++ layoutOpt src name
        | .method => (if asterisk then [.text "*"] else []) ++ layoutOpt src name
        | .arrow => [])
      ++ (match typeParams with
        | some xs => [.text "<"] ++ layoutJoined src ", " xs ++ [.text ">"]
        | none => [])
      ++ (if kind == .arrow && bare && params.length == 1 then layoutJoined src ", " params
        else [.text "("] ++ layoutJoined src ", " params ++ [.text ")"])
      ++ (match result with
        | some r => [.text ": "] ++ layout src r
        | none => [])
      ++ (if kind == .arrow then [.text " => "] ++ layoutOpt src body
        else match body with
          | some b => [.text " "] ++ layout src b
          | none => [.text ";"])
  | prefixUnary _ op operand =>
    (match op.text? with
    | some t =>
      [.text t] ++ (if spaceAfterPrefix op operand then [.text " "] else [])
        ++ layout src operand
    | none => [])
  | postfixUnary _ op operand => layout src operand ++ [.text (op.text?.getD "")]
  | yieldExpr _ delegate operand =>
    [.text "yield"] ++ (if delegate then [.text "*"] else [])
      ++ (match operand with
        | some e => [.text " "] ++ layout src e
        | none => [])
  | binary _ left op right =>
    layout src left
      ++ (if op == .commaToken then [.text ", "]
        else match op.text? with
          | some t => [.text " ", .text t, .text " "]
          | none => [])
      ++ layout src right
  | conditional _ c t f =>
    layout src c ++ [.text " ? "] ++ layout src t ++ [.text " : "] ++ layout src f
  | templateExpr _ head spans => layout src head ++ layoutAll src spans
  | templateSpan _ e lit => layout src e ++ layout src lit
  | spreadElement _ e => [.text "..."] ++ layout src e
  | omitted _ => []
  | asExpr _ e t => layout src e ++ [.text " as "] ++ layout src t
  | satisfiesExpr _ e t => layout src e ++ [.text " satisfies "] ++ layout src t
  | nonNull _ e => layout src e ++ [.text "!"]
  | propertyAssignment _ name init => layout src name ++ [.text ": "] ++ layout src init
  | shorthandProperty _ name init =>
    layout src name
      ++ (match init with
        | some i => [.text " = "] ++ layout src i
        | none => [])
  | spreadAssignment _ e => [.text "..."] ++ layout src e
  | block span statements _ =>
    let bodyEnd := if span.isSource then span.stop - 1 else 0
    [.skipCommentsTo (if span.isSource then span.pos + 1 else 0)]
      ++ (if statements.isEmpty then [.emptyBody bodyEnd]
        else
          [.text "\x7b", .newline, .indent] ++ layoutStatements src statements
            ++ [.commentsBefore bodyEnd, .dedent, .text "\x7d"])
  | variableStatement _ mods list => mods.layout ++ layout src list ++ [.text ";"]
  | variableList _ kw declarations =>
    [.text kw.text] ++ layoutJoined src ", " declarations
  | variableDeclaration _ name definite type init =>
    layout src name ++ (if definite then [.text "!"] else [])
      ++ (match type with
        | some t => [.text ": "] ++ layout src t
        | none => [])
      ++ (match init with
        | some i => [.text " = "] ++ layout src i
        | none => [])
  | emptyStatement _ => [.text ";"]
  | expressionStatement _ e => layout src e ++ [.text ";"]
  | returnStatement _ e =>
    [.text "return"]
      ++ (match e with
        | some e => [.text " "] ++ layout src e
        | none => [])
      ++ [.text ";"]
  | throwStatement _ e =>
    [.text "throw"]
      ++ (match e with
        | some e => [.text " "] ++ layout src e
        | none => [])
      ++ [.text ";"]
  | ifStatement _ condition thenBranch elseBranch =>
    [.text "if ("] ++ layout src condition ++ [.text ")"] ++ layoutEmbedded src thenBranch
      ++ (match elseBranch with
        | some e =>
          (if isSomeBlock thenBranch then [.text " else"] else [.newline, .text "else"])
            ++ (match e with
              | ifStatement .. => [.text " "] ++ layout src e
              | _ =>
                if e.isBlock then [.text " "] ++ layout src e
                else [.newline, .indent] ++ layout src e ++ [.dedent])
        | none => [])
  | doStatement _ body condition =>
    [.text "do"] ++ layoutEmbedded src body
      ++ (if isSomeBlock body then [.text " "] else [.newline])
      ++ [.text "while ("] ++ layout src condition ++ [.text ");"]
  | whileStatement _ condition body =>
    [.text "while ("] ++ layout src condition ++ [.text ")"] ++ layoutEmbedded src body
  | forStatement _ init condition update body =>
    [.text "for ("] ++ layoutOpt src init ++ [.text ";"]
      ++ (match condition with
        | some c => [.text " "] ++ layout src c
        | none => [])
      ++ [.text ";"]
      ++ (match update with
        | some u => [.text " "] ++ layout src u
        | none => [])
      ++ [.text ")"] ++ layoutEmbedded src body
  | forInStatement _ await init e body =>
    [.text "for "] ++ (if await then [.text "await "] else []) ++ [.text "("]
      ++ layoutOpt src init ++ [.text " in "] ++ layout src e ++ [.text ")"]
      ++ layoutEmbedded src body
  | forOfStatement _ await init e body =>
    [.text "for "] ++ (if await then [.text "await "] else []) ++ [.text "("]
      ++ layoutOpt src init ++ [.text " of "] ++ layout src e ++ [.text ")"]
      ++ layoutEmbedded src body
  | breakStatement _ label =>
    [.text "break"]
      ++ (match label with
        | some l => [.text " "] ++ layout src l
        | none => [])
      ++ [.text ";"]
  | continueStatement _ label =>
    [.text "continue"]
      ++ (match label with
        | some l => [.text " "] ++ layout src l
        | none => [])
      ++ [.text ";"]
  | switchStatement span e clauses =>
    [.text "switch ("] ++ layout src e ++ [.text ") \x7b", .newline, .indent]
      ++ layoutClauses src clauses
      ++ (if span.isSource then [.commentsBefore (span.stop - 1)] else [])
      ++ [.dedent, .text "\x7d"]
  | caseClause span e statements =>
    [.text "case "] ++ layout src e ++ [.text ":", .newline, .indent]
      ++ layoutStatements src statements
      ++ [.commentsBefore (if span.isSource then span.stop else 0), .dedent]
  | defaultClause span statements =>
    [.text "default:", .newline, .indent] ++ layoutStatements src statements
      ++ [.commentsBefore (if span.isSource then span.stop else 0), .dedent]
  | tryStatement _ tryBlock catchPart finallyBlock =>
    [.text "try "] ++ layout src tryBlock
      ++ (match catchPart with
        | some c => [.text " "] ++ layout src c
        | none => [])
      ++ (match finallyBlock with
        | some f => [.text " finally "] ++ layout src f
        | none => [])
  | catchClause _ declaration body =>
    [.text "catch "]
      ++ (match declaration with
        | some d => [.text "("] ++ layout src d ++ [.text ") "]
        | none => [])
      ++ layout src body
  | debuggerStatement _ => [.text "debugger;"]
  | interfaceDeclaration span mods name typeParams heritage members =>
    mods.layout ++ [.text "interface "] ++ layout src name
      ++ (match typeParams with
        | some xs => [.text "<"] ++ layoutJoined src ", " xs ++ [.text ">"]
        | none => [])
      ++ (match heritage with
        | some xs => [.text " extends "] ++ layoutJoined src ", " xs
        | none => [])
      ++ [.text " "]
      ++ (if members.isEmpty then [.text "\x7b\x7d"]
        else
          [.text "\x7b", .newline, .indent] ++ layoutMembers src members
            ++ (if span.isSource then [.commentsBefore (span.stop - 1)] else [])
            ++ [.dedent, .text "\x7d"])
  | typeAlias _ mods name typeParams type =>
    mods.layout ++ [.text "type "] ++ layout src name
      ++ (match typeParams with
        | some xs => [.text "<"] ++ layoutJoined src ", " xs ++ [.text ">"]
        | none => [])
      ++ [.text " = "] ++ layout src type ++ [.text ";"]
  | importDeclaration _ clause specifier =>
    [.text "import "]
      ++ (match clause with
        | some c => layout src c ++ [.text " from "]
        | none => [])
      ++ layout src specifier ++ [.text ";"]
  | importClause _ typeOnly name bindings =>
    (if typeOnly then [.text "type "] else []) ++ layoutOpt src name
      ++ (if name.isSome && bindings.isSome then [.text ", "] else [])
      ++ layoutOpt src bindings
  | namespaceImport _ name => [.text "* as "] ++ layout src name
  | namespaceExport _ name => [.text "* as "] ++ layout src name
  | namedImports _ elements =>
    if elements.isEmpty then [.text "\x7b\x7d"]
    else [.text "\x7b "] ++ layoutJoined src ", " elements ++ [.text " \x7d"]
  | namedExports _ elements =>
    if elements.isEmpty then [.text "\x7b\x7d"]
    else [.text "\x7b "] ++ layoutJoined src ", " elements ++ [.text " \x7d"]
  | importSpecifier _ typeOnly property name =>
    (if typeOnly then [.text "type "] else [])
      ++ (match property with
        | some p => layout src p ++ [.text " as "]
        | none => [])
      ++ layout src name
  | exportSpecifier _ typeOnly property name =>
    (if typeOnly then [.text "type "] else [])
      ++ (match property with
        | some p => layout src p ++ [.text " as "]
        | none => [])
      ++ layout src name
  | exportDeclaration _ typeOnly clause specifier =>
    [.text "export "] ++ (if typeOnly then [.text "type "] else [])
      ++ (match clause with
        | some c => layout src c
        | none => [.text "*"])
      ++ (match specifier with
        | some s => [.text " from "] ++ layout src s
        | none => [])
      ++ [.text ";"]
  | exportAssignment _ e => [.text "export default "] ++ layout src e ++ [.text ";"]

/-- The pieces of an optional node; nothing when absent. -/
def layoutOpt (src : String) : Option Node → List Piece
  | some n => layout src n
  | none => []

/-- The nodes of a list, with `sep` between each two. -/
def layoutJoined (src : String) (sep : String) : List Node → List Piece
  | [] => []
  | n :: rest =>
    layout src n ++ (if rest.isEmpty then [] else [.text sep]) ++ layoutJoined src sep rest

/-- The nodes of a list, one after the other. -/
def layoutAll (src : String) : List Node → List Piece
  | [] => []
  | n :: rest => layout src n ++ layoutAll src rest

/-- The elements of a multi-line literal, each on its own line, with commas between. -/
def layoutLines (src : String) : List Node → List Piece
  | [] => []
  | n :: rest =>
    layout src n ++ (if rest.isEmpty then [] else [.text ","]) ++ [.newline]
      ++ layoutLines src rest

/-- Statements, each on its own line with the comments before it and after it on its line. -/
def layoutStatements (src : String) : List Node → List Piece
  | [] => []
  | n :: rest =>
    [.leading n.span] ++ layout src n ++ [.trailing n.span, .newline]
      ++ layoutStatements src rest

/-- Members of an object type, each on its own line and ended by `;`, with the comments before
it and after it on its line. -/
def layoutMembers (src : String) : List Node → List Piece
  | [] => []
  | n :: rest =>
    [.leading n.span] ++ layout src n ++ [.text ";", .trailing n.span, .newline]
      ++ layoutMembers src rest

/-- Members of a one-line object type, each followed by `; `. -/
def layoutInline (src : String) : List Node → List Piece
  | [] => []
  | n :: rest => layout src n ++ [.text "; "] ++ layoutInline src rest

/-- The clauses of a `switch`, each after the comments before it. -/
def layoutClauses (src : String) : List Node → List Piece
  | [] => []
  | n :: rest => [.leading n.span] ++ layout src n ++ layoutClauses src rest

/-- A statement in an embedded position: a block stays on the line, anything else goes on a line
of its own, one level deeper. -/
def layoutEmbedded (src : String) : Option Node → List Piece
  | some n =>
    if n.isBlock then [.text " "] ++ layout src n
    else [.newline, .indent] ++ layout src n ++ [.dedent]
  | none => [.newline, .indent, .dedent]

end

end Node

end ParamNarrow
