import ParamNarrow.Syntax.Walk
/-!
# Field reads and escapes of a parameter

A function body reads a field of parameter `p`, written as a bare identifier, by

* `p.a` and `p?.a`;
* `p["a"]`, `` p[`a`] `` and `p[0]`, whose keys are literals;
* `const { a, b: local, c = 1 } = p`, which reads the source names `a`, `b` and `c`.

Nested patterns, rest elements and reads through another binding (`const q = p; q.a`) read nothing
that can be attributed. Nested functions count like the rest of the body: shadowing is not tracked.

A parameter escapes when its value leaves the function whole, so that the fields read from it cannot
be listed: as an argument of a call or `new`, spread or not; as a substitution of a tagged template,
which the tag receives as an argument; or indexed by a key that is not a literal. Parentheses, `!`,
`as` and `satisfies` around the identifier do not hide it.
-/

namespace ParamNarrow

namespace Node

/-- The static key of an element access: the value of a string, template or numeric literal. -/
def literalKey? : Node → Option String
  | literal _ kind text _ =>
    if kind == .stringLiteral || kind == .noSubstitutionTemplateLiteral || kind == .numericLiteral
    then some text else none
  | _ => none

/-- The field a destructuring element reads: its property name, or else its own name. Rest
elements and nested patterns read none. -/
def bindingRead? : Node → Option String
  | bindingElement _ rest propertyName name _ =>
    if rest || name.identText?.isNone then none
    else
      match propertyName with
      | some p => p.propertyNameText?
      | none => name.identText?
  | _ => none

/-- The fields of parameter `p` that a node itself reads. -/
def fieldReads (p : String) : Node → List String
  | propertyAccess _ object _ name =>
    if object.identText? == some p then name.identText?.toList else []
  | elementAccess _ object _ index =>
    if object.identText? == some p then index.literalKey?.toList else []
  | variableDeclaration _ (objectBindingPattern _ elements) _ _ (some init) =>
    if init.identText? == some p then elements.filterMap bindingRead? else []
  | _ => []

/-- The identifier whose value an argument passes on, through spreads, parentheses, `!`, `as` and
`satisfies`. -/
def passedName? : Node → Option String
  | parenthesized _ e => passedName? e
  | nonNull _ e => passedName? e
  | spreadElement _ e => passedName? e
  | asExpr _ e _ => passedName? e
  | satisfiesExpr _ e _ => passedName? e
  | n => n.identText?

/-- The names whose values a node itself lets escape: the arguments of a call or `new`, the
substitutions of a tagged template, the object of an access by a key that is not a literal. -/
def escapingNames : Node → List String
  | call _ _ _ _ args => args.filterMap passedName?
  | new _ _ _ args => (optList args).filterMap passedName?
  | taggedTemplate _ _ _ (templateExpr _ _ spans) =>
    spans.filterMap fun
      | templateSpan _ e _ => e.passedName?
      | _ => none
  | elementAccess _ object _ index => if index.literalKey?.isNone then object.passedName?.toList else []
  | _ => []

end Node

/-- Insert a string into a sorted list without duplicates. -/
def insertSorted (s : String) : List String → List String
  | [] => [s]
  | x :: xs => if s < x then s :: x :: xs else if s == x then x :: xs else x :: insertSorted s xs

/-- The distinct strings of a list, sorted. -/
def sortedDistinct (xs : List String) : List String :=
  xs.foldl (fun acc s => insertSorted s acc) []

/-- The fields of parameter `p` read anywhere in `body`, sorted and without repeats. -/
def usedFields (body : Option Node) (p : String) : List String :=
  sortedDistinct ((body.map Node.preorder).getD [] |>.flatMap (Node.fieldReads p))

/-- Whether parameter `p` escapes anywhere in `body`. -/
def escapes (body : Option Node) (p : String) : Bool :=
  ((body.map Node.preorder).getD [] |>.flatMap Node.escapingNames).contains p

end ParamNarrow
