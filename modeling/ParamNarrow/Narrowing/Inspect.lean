import ParamNarrow.Narrowing.Run
/-!
# The inputs of a narrowing decision

`inspectSource` shows what the decision for one function is made of: the top-level declarations of
the function, the bound type names, and for each parameter of the implementation its name, the
fields read from it, whether it escapes, and the fields of its declared type. Nodes are printed
apart from their file, so object types stay on one line and no comments appear.
-/

namespace ParamNarrow

/-- A field of a resolved type, printed. -/
structure FieldSummary where
  name : String
  optional : Bool
  readonly : Bool
  intersected : Bool
  /-- The field's type as printed; none for methods and unannotated properties. -/
  type : Option String
  /-- Every signature of the field, printed. -/
  members : List String
deriving Repr, DecidableEq, Inhabited

/-- A field summarized for display. -/
def Field.summary (f : Field) : FieldSummary :=
  { name := f.name, optional := f.optional, readonly := f.readonly, intersected := f.intersected,
    type := f.type.map (Node.print {}), members := f.members.map (Node.print {}) }

/-- What is known of one parameter. A parameter that binds a pattern has no name, reads no
fields and does not escape. -/
structure ParameterSummary where
  index : Nat
  name : Option String
  /-- The fields read, sorted. -/
  used : Option (List String)
  escapes : Bool
  /-- The fields of the declared type; none when it is unresolvable. -/
  resolved : Option (List FieldSummary)
deriving Repr, DecidableEq, Inhabited

/-- The implementation of a function and its parameters. -/
structure ImplementationSummary where
  statementIndex : Nat
  parameters : List ParameterSummary
deriving Repr, DecidableEq, Inhabited

/-- The inputs of the narrowing decision for one function. -/
structure Inspection where
  /-- The position and body presence of every top-level declaration of the function. -/
  declarations : List (Nat × Bool)
  /-- The bound type names, in the order of their first declarations. -/
  types : List String
  implementation : Option ImplementationSummary
deriving Repr, DecidableEq, Inhabited

/-- The summary of the parameter at `index` of `function`. -/
def DeclarationTable.parameterSummary (t : DeclarationTable) (function : Node) (index : Nat)
    (parameter : Node) : ParameterSummary :=
  let name := parameter.parameterName?
  { index, name,
    used := name.map (usedFields function.body?),
    escapes := (name.map (escapes function.body?)).getD false,
    resolved := (t.resolveParameter function parameter).map (·.map Field.summary) }

/-- Inspect the function `functionName` in `text`. -/
def inspectSource (functionName fileName text : String) : Except ParseFailure Inspection := do
  let file ← parseCleanly fileName text
  let table := DeclarationTable.ofStatements file.statements
  let implementation := (table.implementation? functionName).map fun entry =>
    { statementIndex := entry.statementIndex,
      parameters := entry.node.parameters.mapIdx (table.parameterSummary entry.node) }
  return { declarations := (table.functionDeclarations functionName).map fun e =>
             (e.statementIndex, e.hasBody),
           types := table.typeNames, implementation }

end ParamNarrow
