import ParamNarrow.Binding.Table
/-!
# The fields of a declared type

A parameter's declared type is resolvable when its fields can be listed, in declaration order, from
the syntax alone:

* an object type lists its property and method signatures;
* a reference to a top-level alias or interface is followed, and an interface's `extends` bases add
  their fields after its own;
* an intersection lists the fields of its parts;
* parentheses do not count.

Anything else is unresolvable: keyword types, unions, arrays, tuples, function types, generic
instantiations, type parameters, index and call signatures, computed member names, names the file
does not declare, circular references, and chains of more than `maxResolutionDepth` references.

A name declared twice in one member list, or across the declarations of a merged interface, is one
field: method signatures add overloads, a repeated property adds nothing. An interface's own field
hides an inherited one. A name that several parts of an intersection declare is `intersected`: its
type is the intersection of their members.
-/

namespace ParamNarrow

/-- One field of a resolved type. -/
structure Field where
  name : String
  /-- Every property or method signature that declares the field, in source order; more than one
  for an overloaded method. -/
  members : List Node
  /-- The annotation of the first signature when it is a property; none for methods and
  unannotated properties. -/
  type : Option Node
  optional : Bool
  readonly : Bool
  /-- Declared by more than one part of an intersection. -/
  intersected : Bool
deriving Inhabited

/-- The most references followed one inside another while resolving a type. -/
def maxResolutionDepth : Nat :=
  64

/-- Whether a member is a method signature. -/
def Node.isMethodSignature : Node → Bool
  | .signature _ .method .. => true
  | _ => false

namespace Field

/-- More signatures of a field: they join as overloads when every signature of the field is a
method, and only the method signatures among them join. -/
def addOverloads (f : Field) (more : List Node) : Field :=
  if f.members.all Node.isMethodSignature then
    { f with members := f.members ++ more.filter Node.isMethodSignature }
  else f

end Field

/-- The field list with the field `name` changed by `g`. -/
def updateField (fields : List Field) (name : String) (g : Field → Field) : List Field :=
  fields.map fun f => if f.name == name then g f else f

/-- A field of another declaration of the same interface: a known name takes its signatures as
overloads. -/
def mergeDeclared (fields more : List Field) : List Field :=
  more.foldl (fun acc f =>
    if acc.any (·.name == f.name) then updateField acc f.name (·.addOverloads f.members)
    else acc ++ [f]) fields

/-- Inherited fields: a name the interface declares hides them. -/
def mergeInherited (fields more : List Field) : List Field :=
  more.foldl (fun acc f => if acc.any (·.name == f.name) then acc else acc ++ [f]) fields

/-- The fields of another part of an intersection: a known name keeps its first place and is marked
`intersected`. -/
def mergeIntersected (fields more : List Field) : List Field :=
  more.foldl (fun acc f =>
    if acc.any (·.name == f.name) then updateField acc f.name fun g => { g with intersected := true }
    else acc ++ [f]) fields

/-- The fields declared by a list of members, given the fields of the members before them; none
when a member is not a property or method signature or has a computed name. -/
def collectMembersFrom (fields : List Field) : List Node → Option (List Field)
  | [] => some fields
  | m :: rest =>
    match m with
    | .signature _ kind mods name question _ _ type =>
      if kind == .call then none
      else
        match name.bind Node.propertyNameText? with
        | none => none
        | some n =>
          if fields.any (·.name == n) then
            collectMembersFrom (updateField fields n (·.addOverloads [m])) rest
          else
            let field : Field :=
              { name := n, members := [m], type := if kind == .property then type else none,
                optional := question, readonly := mods.readonly, intersected := false }
            collectMembersFrom (fields ++ [field]) rest
    | _ => none

/-- The fields declared by the members of an object type or interface. -/
def collectMembers (members : List Node) : Option (List Field) :=
  collectMembersFrom [] members

mutual

/-- The fields of a type, where `follow` gives the fields of a type reference. -/
def shapeWith (follow : Node → Option (List Field)) : Node → Option (List Field)
  | .typeLiteral _ members _ => collectMembers members
  | .parenthesizedType _ t => shapeWith follow t
  | .intersectionType _ ts => intersectionShape follow [] ts
  | r@(.typeReference ..) => follow r
  | _ => none

/-- The fields of the parts of an intersection, after the fields `acc` of the parts before. -/
def intersectionShape (follow : Node → Option (List Field)) (acc : List Field) :
    List Node → Option (List Field)
  | [] => some acc
  | t :: ts =>
    match shapeWith follow t with
    | some fs => intersectionShape follow (mergeIntersected acc fs) ts
    | none => none

end

/-- The fields of an interface's declarations, then of its bases; `resolve` gives a base's
fields. -/
def interfaceShape (resolve : Node → Option (List Field)) (declarations : List Node) :
    Option (List Field) :=
  let own : Option (List Field × List Node) := declarations.foldlM (fun (fields, bases) d =>
    match d with
    | .interfaceDeclaration _ _ _ typeParams heritage members =>
      if typeParams.isSome then none
      else (collectMembers members).map fun more =>
        (mergeDeclared fields more, bases ++ Node.optList heritage)
    | _ => none) ([], [])
  own.bind fun (fields, bases) =>
    bases.foldlM (fun acc base => (resolve base).map (mergeInherited acc)) fields

/-- The fields of a declared type; `resolve` gives the fields of a type node inside it. -/
def declarationShape (resolve : Node → Option (List Field)) : TypeDeclaration → Option (List Field)
  | .alias (.typeAlias _ _ _ typeParams type) => if typeParams.isSome then none else resolve type
  | .alias _ => none
  | .interface ds => interfaceShape resolve ds

/-- Resolution within a file: its declarations and the type parameters of the function, which hide
the file's types of the same name. -/
structure Resolver where
  table : DeclarationTable
  typeParams : List String

namespace Resolver

/-- The fields of a type reference, with the declarations `active` being expanded; `next` resolves
a type node inside the declaration, given the names then being expanded. -/
def followReference (r : Resolver) (active : List String)
    (next : List String → Node → Option (List Field)) : Node → Option (List Field)
  | .typeReference _ name args =>
    if args.isSome then none
    else
      match name.identText? with
      | none => none
      | some n =>
        if r.typeParams.contains n then none
        else
          match r.table.typeDeclaration? n with
          | none => none
          | some d =>
            if active.contains n || maxResolutionDepth ≤ active.length then none
            else declarationShape (next (active ++ [n])) d
  | _ => none

/-- The fields of a type with the declarations `active` being expanded, following at most `fuel`
more references. -/
def resolveAt (r : Resolver) : Nat → List String → Node → Option (List Field)
  | 0, _, _ => none
  | fuel + 1, active, node =>
    shapeWith (r.followReference active (r.resolveAt fuel)) node

/-- The fields of a type. The fuel is never the limit: the depth check stops a chain of
references first. -/
def resolve (r : Resolver) (node : Node) : Option (List Field) :=
  r.resolveAt (maxResolutionDepth + 1) [] node

end Resolver

/-- The names of a function's type parameters. -/
def Node.typeParameterNames : Node → List String
  | .function _ _ _ _ _ (some tps) .. => tps.filterMap fun
    | .typeParameter _ name _ _ => name.identText?
    | _ => none
  | _ => []

/-- The fields of the declared type of `parameter`, a parameter of `function`; none when the
parameter binds a pattern, has no annotation, or its type is unresolvable. -/
def DeclarationTable.resolveParameter (t : DeclarationTable) (function parameter : Node) :
    Option (List Field) :=
  match parameter with
  | .parameter _ _ (.ident ..) _ (some type) _ =>
    ({ table := t, typeParams := function.typeParameterNames } : Resolver).resolve type
  | _ => none

end ParamNarrow
