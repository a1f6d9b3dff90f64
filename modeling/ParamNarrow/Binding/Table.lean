import ParamNarrow.Syntax.Node
/-!
# The top-level declaration table

Only the top-level statements of a file are bound: the narrowing needs to find a function by name
and to look up the named types its parameters refer to. Nested scopes, imports and values are not
tracked.

A type name is bound by its first declaration. A second alias of a name is a duplicate and is
ignored; interfaces of one name merge, so the table keeps all of their declarations in source order;
an interface whose name an alias already holds is ignored. Functions keep every declaration of a
name, overload signatures included; the implementation is the first one with a body.
-/

namespace ParamNarrow

/-- A named type declared at the top level. -/
inductive TypeDeclaration where
  /-- `type Name = ...`. -/
  | alias (node : Node)
  /-- `interface Name { ... }`: every declaration of the name, in source order. -/
  | interface (declarations : List Node)
deriving Inhabited

/-- One more declaration of an interface; an alias stays as it is. -/
def TypeDeclaration.merge : TypeDeclaration → Node → TypeDeclaration
  | .interface ds, n => .interface (ds ++ [n])
  | d, _ => d

/-- A top-level function declaration. -/
structure FunctionEntry where
  /-- The position of the declaration in the file's statement list. -/
  statementIndex : Nat
  node : Node
  /-- False for overload signatures and `declare function`. -/
  hasBody : Bool
deriving Inhabited

/-- The top-level declarations of a file. -/
structure DeclarationTable where
  /-- Named types, in the order of their first declarations. -/
  types : List (String × TypeDeclaration) := []
  /-- Named functions, in source order. -/
  functions : List (String × FunctionEntry) := []
deriving Inhabited

namespace DeclarationTable

/-- The type bound to `name`. -/
def typeDeclaration? (t : DeclarationTable) (name : String) : Option TypeDeclaration :=
  (t.types.find? (·.1 == name)).map Prod.snd

/-- The names of the bound types, in the order of their first declarations. -/
def typeNames (t : DeclarationTable) : List String :=
  t.types.map Prod.fst

/-- Bind an alias, unless the name is bound already. -/
def addAlias (t : DeclarationTable) (name : String) (node : Node) : DeclarationTable :=
  if t.types.any (·.1 == name) then t
  else { t with types := t.types ++ [(name, .alias node)] }

/-- Bind an interface, or merge it into the interface of that name. -/
def addInterface (t : DeclarationTable) (name : String) (node : Node) : DeclarationTable :=
  if t.types.any (·.1 == name) then
    { t with types := t.types.map fun e => if e.1 == name then (e.1, e.2.merge node) else e }
  else { t with types := t.types ++ [(name, .interface [node])] }

/-- Record one top-level statement at position `index`. -/
def bindStatement (t : DeclarationTable) (index : Nat) (statement : Node) : DeclarationTable :=
  match statement with
  | .typeAlias _ _ name _ _ =>
    match name.identText? with
    | some n => t.addAlias n statement
    | none => t
  | .interfaceDeclaration _ _ name _ _ _ =>
    match name.identText? with
    | some n => t.addInterface n statement
    | none => t
  | .function _ .declaration _ _ (some name) _ _ _ _ body _ =>
    match name.identText? with
    | some n =>
      { t with functions := t.functions ++
          [(n, { statementIndex := index, node := statement, hasBody := body.isSome })] }
    | none => t
  | _ => t

/-- Record the statements of a list, the first at position `index`. -/
def bindFrom (t : DeclarationTable) (index : Nat) : List Node → DeclarationTable
  | [] => t
  | s :: rest => (t.bindStatement index s).bindFrom (index + 1) rest

/-- The declaration table of a file's statements. -/
def ofStatements (statements : List Node) : DeclarationTable :=
  ({} : DeclarationTable).bindFrom 0 statements

/-- Every top-level declaration of the function `name`, overloads included, in source order. -/
def functionDeclarations (t : DeclarationTable) (name : String) : List FunctionEntry :=
  (t.functions.filter (·.1 == name)).map Prod.snd

/-- The implementation of the function `name`: its first declaration with a body. -/
def implementation? (t : DeclarationTable) (name : String) : Option FunctionEntry :=
  (t.functionDeclarations name).find? (·.hasBody)

end DeclarationTable

end ParamNarrow
