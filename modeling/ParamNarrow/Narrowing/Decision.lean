import ParamNarrow.Binding.Shape
import ParamNarrow.Narrowing.Reads
import ParamNarrow.Narrowing.Name
/-!
# Which parameters are narrowed

The parameter at position `i` of function `f` is narrowed to the type `typeName f i` when it is
named by an identifier, does not escape, its declared type resolves to a field list, and the fields
read from it are a non-empty strict part of that list. The narrowed type keeps the fields in their
declaration order; reads of names the type does not declare (methods of primitives, typos) are
ignored.
-/

namespace ParamNarrow

/-- The identifier that names a parameter; a parameter that binds a pattern has none. -/
def Node.parameterName? : Node → Option String
  | .parameter _ _ name _ _ _ => name.identText?
  | _ => none

/-- The parameters of a function-like node. -/
def Node.parameters : Node → List Node
  | .function _ _ _ _ _ _ params _ _ _ _ => params
  | _ => []

/-- The body of a function-like node. -/
def Node.body? : Node → Option Node
  | .function _ _ _ _ _ _ _ _ _ body _ => body
  | _ => none

namespace Narrowing

/-- The type a parameter is narrowed to: the fields it keeps of its declared type. -/
structure NarrowedType where
  name : String
  parameterIndex : Nat
  parameterName : String
  /-- The parameter's annotation as written. -/
  declaredType : Node
  /-- The kept fields, in declaration order. -/
  fields : List Field
deriving Inhabited

/-- The kept fields: those of `shape` that `used` names, in the order of `shape`. -/
def keptFields (shape : List Field) (used : List String) : List Field :=
  shape.filter fun f => used.contains f.name

/-- The decision for the parameter at `index` of `function`, given the fields read from it and
whether it escapes. -/
def narrowParameter (t : DeclarationTable) (functionName : String) (function : Node)
    (index : Nat) (parameter : Node) (used : List String) (escaped : Bool) :
    Option NarrowedType :=
  match parameter with
  | .parameter _ _ (.ident _ name) _ (some declared) _ =>
    if escaped || used.isEmpty then none
    else
      match t.resolveParameter function parameter with
      | none => none
      | some shape =>
        let kept := keptFields shape used
        if kept.isEmpty || kept.length == shape.length then none
        else some { name := typeName functionName index, parameterIndex := index,
                    parameterName := name, declaredType := declared, fields := kept }
  | _ => none

/-- The decision for each parameter of `function`, in order; none where the parameter keeps its
type. -/
def decisions (t : DeclarationTable) (functionName : String) (function : Node) :
    List (Option NarrowedType) :=
  function.parameters.mapIdx fun index parameter =>
    match parameter.parameterName? with
    | none => none
    | some name =>
      narrowParameter t functionName function index parameter (usedFields function.body? name)
        (escapes function.body? name)

end Narrowing

end ParamNarrow
