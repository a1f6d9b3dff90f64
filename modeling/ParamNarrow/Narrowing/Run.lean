import ParamNarrow.Narrowing.Rewrite
import ParamNarrow.Syntax.Parser.File
import ParamNarrow.Print.Printer
/-!
# Narrowing the parameters of a function in a file

`narrowSource` parses the file, refuses it when it has a syntax error, binds its top-level
declarations, and narrows the parameters of the first declaration of the function with a body. The
file is printed with the rewritten function and the declarations of the narrowed types in place of
the function; when no parameter is narrowed, or no implementation exists, it is printed unchanged.

A narrowed type's name is not checked against the declarations of the file: an existing type of
that name is shadowed by the new one.
-/

namespace ParamNarrow

/-- Options of a narrowing run. -/
structure NarrowOptions where
  projection : ProjectionStyle := .pick
  print : PrintOptions := {}
deriving Inhabited

/-- A narrowed type as reported. -/
structure SynthesizedType where
  name : String
  parameterName : String
  /-- The 0-based position of the parameter. -/
  parameterIndex : Nat
  /-- The kept fields, in declaration order. -/
  fields : List String
deriving Repr, DecidableEq, Inhabited

/-- The report of a narrowed type. -/
def Narrowing.NarrowedType.report (d : Narrowing.NarrowedType) : SynthesizedType :=
  { name := d.name, parameterName := d.parameterName, parameterIndex := d.parameterIndex,
    fields := d.fields.map (·.name) }

/-- The result of a narrowing run. -/
structure NarrowReport where
  functionName : String
  /-- Whether the file has a top-level implementation of the function. -/
  found : Bool
  /-- The narrowed types, in parameter order; empty when nothing changed. -/
  types : List SynthesizedType
  /-- The printed file. -/
  text : String
deriving Inhabited

/-- Whether the run changed the file. -/
def NarrowReport.changed (r : NarrowReport) : Bool :=
  !r.types.isEmpty

/-- A file that did not parse cleanly. -/
structure ParseFailure where
  fileName : String
  diagnostics : List Diagnostic
deriving Inhabited

/-- `file: n syntax error(s), first: message`, the last part only when there is a diagnostic. -/
def ParseFailure.message (f : ParseFailure) : String :=
  f.fileName ++ ": " ++ toString f.diagnostics.length ++ " syntax error(s)"
    ++ match f.diagnostics with
      | d :: _ => ", first: " ++ d.message.text
      | [] => ""

/-- Parse a file, or fail with its diagnostics when one of them is an error. -/
def parseCleanly (fileName text : String) : Except ParseFailure SourceFile :=
  let (file, diagnostics) := parseFile fileName text
  if diagnostics.any Diagnostic.isError then .error { fileName, diagnostics }
  else .ok file

/-- The file with the function at `entry` rewritten and the narrowed types declared after it. -/
def Narrowing.rewriteFile (style : ProjectionStyle) (file : SourceFile) (entry : FunctionEntry)
    (function : Node) (narrowed : List NarrowedType) : SourceFile :=
  let aliases := narrowed.map (typeDeclaration style function.isExported)
  match splice file.statements entry.statementIndex (function :: aliases) with
  | some statements => { file with statements }
  | none => file

/-- Narrow the parameters of `functionName` in `text`. -/
def narrowSource (functionName fileName text : String) (options : NarrowOptions) :
    Except ParseFailure NarrowReport := do
  let file ← parseCleanly fileName text
  let table := DeclarationTable.ofStatements file.statements
  match table.implementation? functionName with
  | none =>
    return { functionName, found := false, types := [], text := file.print options.print }
  | some entry =>
    let ds := Narrowing.decisions table functionName entry.node
    let narrowed := ds.filterMap id
    match Narrowing.rewriteFunction entry.node ds with
    | none =>
      return { functionName, found := true, types := [], text := file.print options.print }
    | some function =>
      let file := Narrowing.rewriteFile options.projection file entry function narrowed
      return { functionName, found := true, types := narrowed.map (·.report),
               text := file.print options.print }

end ParamNarrow
