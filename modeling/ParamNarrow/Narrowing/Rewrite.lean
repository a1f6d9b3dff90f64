import ParamNarrow.Narrowing.Decision
/-!
# Rewriting the function and declaring the narrowed types

The narrowed parameters of the function are annotated with a reference to their new type; the rest
of the function (modifiers, `?`, initializers, body, return type) stays as it is. The copies keep the
spans of the nodes they replace, so the comments around them are still printed.

Each narrowed type is declared right after the function, exported when the function is. It is
spelled `Pick<Declared, "a" | "b">`, or, in the literal style, as an object type that repeats every
signature of the kept fields. A field that several parts of an intersection declare has no single
signature to repeat, so a type with such a field is spelled with `Pick` in either style.
-/

namespace ParamNarrow

/-- How a narrowed type is spelled. -/
inductive ProjectionStyle where
  /-- `Pick<Declared, "a" | "b">` -/
  | pick
  /-- `{ a: A; b: B; }`, repeating the declared members -/
  | literal
deriving Repr, DecidableEq, Inhabited

/-- The escape of one character in a double-quoted string. -/
def quoteChar (c : Char) : String :=
  if c == '"' then "\\\""
  else if c == '\\' then "\\\\"
  else if c == '\n' then "\\n"
  else if c == '\r' then "\\r"
  else if c == '\t' then "\\t"
  else if c == '\u2028' then "\\u2028"
  else if c == '\u2029' then "\\u2029"
  else c.toString

/-- A string literal whose value is `text`: double-quoted, with what would end or break the
literal escaped. -/
def quoteString (text : String) : String :=
  "\"" ++ String.join (text.toList.map quoteChar) ++ "\""

namespace Node

/-- A synthesized reference to the type `name`. -/
def synthesizedReference (name : String) (args : Option (List Node)) : Node :=
  .typeReference Span.none (.ident Span.none name) args

/-- A synthesized string literal type. -/
def stringLiteralType (text : String) : Node :=
  .literalType Span.none (.literal Span.none .stringLiteral text (quoteString text))

/-- A synthesized union; a single type stands for itself. -/
def synthesizedUnion : List Node → Node
  | [t] => t
  | ts => .unionType Span.none ts

/-- A parameter with its annotation replaced. -/
def withType : Node → Node → Node
  | .parameter span rest name question _ init, type =>
    .parameter span rest name question (some type) init
  | n, _ => n

/-- A function with its parameter list replaced; the trailing comma stays. -/
def withParameters (params : List Node) : Node → Node
  | .function span kind mods asterisk name typeParams _ trailingComma result body bare =>
    .function span kind mods asterisk name typeParams params trailingComma result body bare
  | n => n

/-- Whether a function is exported. -/
def isExported : Node → Bool
  | .function _ _ mods .. => mods.exported
  | _ => false

end Node

namespace Narrowing

/-- The function with each narrowed parameter annotated with its new type; none when no parameter
is narrowed, and then the function stays as it is. -/
def rewriteFunction (function : Node) (ds : List (Option NarrowedType)) : Option Node :=
  if ds.all Option.isNone then none
  else
    some (function.withParameters (function.parameters.mapIdx fun index parameter =>
      match ds[index]? with
      | some (some d) => parameter.withType (Node.synthesizedReference d.name none)
      | _ => parameter))

/-- The type a narrowed type is spelled as. -/
def projection (style : ProjectionStyle) (d : NarrowedType) : Node :=
  if style == .literal && !d.fields.any (·.intersected) then
    .typeLiteral Span.none (d.fields.flatMap (·.members)) true
  else
    Node.synthesizedReference "Pick"
      (some [d.declaredType, Node.synthesizedUnion (d.fields.map (Node.stringLiteralType ·.name))])

/-- The declaration `type Name = ...;` of a narrowed type. -/
def typeDeclaration (style : ProjectionStyle) (exported : Bool) (d : NarrowedType) : Node :=
  .typeAlias Span.none { exported } (.ident Span.none d.name) none (projection style d)

/-- The statements with the one at `index` replaced by `replacement`; none when there is no such
statement. -/
def splice (statements : List Node) (index : Nat) (replacement : List Node) : Option (List Node) :=
  if index < statements.length then
    some (statements.take index ++ replacement ++ statements.drop (index + 1))
  else none

end Narrowing

end ParamNarrow
