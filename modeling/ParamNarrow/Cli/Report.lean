import ParamNarrow.Narrowing.Run
/-!
# What a run tells its user

The summary is one line: a warning when the file has no implementation of the function, a note
that no parameter was narrowed, or the list of narrowed parameters with their new types and kept
fields. The report is JSON with two-space indentation and the keys `functionName`, `found` and
`types`; strings are escaped as JSON requires: the quote, the backslash and the control
characters, with the short escapes where JSON has them and `\u00xx` otherwise.
-/

namespace ParamNarrow

/-- The lower-case hexadecimal digit of `n < 16`. -/
def hexDigit (n : Nat) : Char :=
  if n < 10 then Char.ofNat ('0'.toNat + n) else Char.ofNat ('a'.toNat + n - 10)

/-- The JSON text of one character inside a string. -/
def jsonChar (c : Char) : String :=
  if c == '"' then "\\\""
  else if c == '\\' then "\\\\"
  else if c == '\n' then "\\n"
  else if c == '\r' then "\\r"
  else if c == '\t' then "\\t"
  else if c == '\x08' then "\\b"
  else if c == '\x0c' then "\\f"
  else if c.toNat < 0x20 then
    String.ofList ['\\', 'u', '0', '0', hexDigit (c.toNat / 16), hexDigit (c.toNat % 16)]
  else c.toString

/-- A JSON string literal. -/
def jsonString (s : String) : String :=
  "\"" ++ String.join (s.toList.map jsonChar) ++ "\""

/-- Lines of a JSON array of already indented items, or `[]` when empty; `indent` is the
indentation of the line that opens it. -/
def jsonArray (indent : String) : List String → String
  | [] => "[]"
  | items => "[\n" ++ ",\n".intercalate items ++ "\n" ++ indent ++ "]"

/-- A narrowed type in the report, indented by four spaces. -/
def SynthesizedType.prettyJson (t : SynthesizedType) : String :=
  "    \x7b\n" ++
  "      \"name\": " ++ jsonString t.name ++ ",\n" ++
  "      \"parameterName\": " ++ jsonString t.parameterName ++ ",\n" ++
  "      \"parameterIndex\": " ++ toString t.parameterIndex ++ ",\n" ++
  "      \"fields\": " ++ jsonArray "      " (t.fields.map fun f => "        " ++ jsonString f) ++
  "\n    \x7d"

/-- The report as JSON with two-space indentation. -/
def NarrowReport.prettyJson (r : NarrowReport) : String :=
  "\x7b\n" ++
  "  \"functionName\": " ++ jsonString r.functionName ++ ",\n" ++
  "  \"found\": " ++ (if r.found then "true" else "false") ++ ",\n" ++
  "  \"types\": " ++ jsonArray "  " (r.types.map SynthesizedType.prettyJson) ++
  "\n\x7d"

/-- One line on what a run changed. -/
def NarrowReport.summary (r : NarrowReport) : String :=
  if !r.found then
    "warning: no top-level implementation of '" ++ r.functionName ++ "'; file printed unchanged"
  else if !r.changed then r.functionName ++ ": no parameter narrowed"
  else
    r.functionName ++ ": narrowed " ++ ", ".intercalate (r.types.map fun t =>
      t.parameterName ++ " -> " ++ t.name ++ " (" ++ ", ".intercalate t.fields ++ ")")

end ParamNarrow
