import ParamNarrow.Text.UpperCase
/-!
# Names of synthesized types

The type synthesized for a parameter is named after the function and the parameter's position:
`In`, then the function name with its first character in upper case (by the full Unicode mapping,
so it may grow by several characters), then the 1-based position of the parameter.
-/

namespace ParamNarrow.Narrowing

/-- The function name with its first character in upper case. -/
def capitalize (name : String) : String :=
  match name.toList with
  | [] => ""
  | c :: rest => Text.upperFull c ++ String.ofList rest

/-- The name of the type synthesized for the parameter at 0-based `index` of `function`. -/
def typeName (function : String) (index : Nat) : String :=
  "In" ++ capitalize function ++ toString (index + 1)

end ParamNarrow.Narrowing
