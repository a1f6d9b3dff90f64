import ParamNarrow.Diagnostic
import ParamNarrow.Text.LineMap
/-!
# Rendering diagnostics

A diagnostic renders as `file:line:column - category TSPcode: message`, with the line and column
counted from 1 by the line map. When the text has that line, a snippet follows: the line number
right-aligned in three columns, the line with its tabs widened to four spaces, and under it a run
of `~` that starts under the column and is as wide as the diagnostic's length in characters, and
at least one.

The snippet's lines are those of a line-feed split, so a lone carriage return breaks a line for
the line map but not for the snippet.
-/

namespace ParamNarrow

/-- The lines of a text as characters: split at each line feed, which is dropped with one
carriage return before it. A text ending in a line feed has no empty last line. -/
def Text.lineChars (cs : List Char) : List (List Char) :=
  let pieces := cs.splitOn '\n'
  let ended := pieces.dropLast.map fun p => if p.getLast? == some '\r' then p.dropLast else p
  match pieces.getLast? with
  | some last => if last.isEmpty then ended else ended ++ [last]
  | none => ended

/-- The lines of a text. -/
def Text.lines (text : String) : List String :=
  (Text.lineChars text.toList).map String.ofList

/-- `s` padded on the left with spaces to `width` characters. -/
def padLeft (width : Nat) (s : String) : String :=
  String.ofList (List.replicate (width - s.length) ' ') ++ s

/-- The columns a character takes in a snippet: four for a tab, one otherwise. -/
def snippetWidth (c : Char) : Nat :=
  if c == '\t' then 4 else 1

/-- A line with each tab widened to four spaces. -/
def expandTabs (cs : List Char) : String :=
  String.join (cs.map fun c => if c == '\t' then "    " else c.toString)

/-- The snippet of line `line` (from 1) of `source`, underlining `length` characters from
`column` (from 1). -/
def snippet (source : String) (line column length : Nat) : Option String := do
  let text ← (Text.lines source)[line - 1]?
  let cs := text.toList
  let lead := String.join ((cs.take (column - 1)).map fun c => if c == '\t' then "    " else " ")
  let width := Nat.max 1 ((((cs.drop (column - 1)).take length).map snippetWidth).foldl (· + ·) 0)
  return "\n  " ++ padLeft 3 (toString line) ++ "   " ++ expandTabs cs ++ "\n        "
    ++ lead ++ String.ofList (List.replicate width '~')

/-- A diagnostic as text, with its snippet when the line exists. -/
def Diagnostic.render (source : String) (m : Text.LineMap) (d : Diagnostic) : String :=
  let p := m.position source d.start
  let line := p.line + 1
  let column := p.character + 1
  d.file ++ ":" ++ toString line ++ ":" ++ toString column ++ " - " ++ d.message.category.label
    ++ " TSP" ++ toString d.message.code ++ ": " ++ d.message.text
    ++ (snippet source line column d.length).getD ""

/-- Diagnostics as text, one after another, separated by line feeds. -/
def renderDiagnostics (source : String) (ds : List Diagnostic) : String :=
  let m := Text.LineMap.build source
  "\n".intercalate (ds.map (Diagnostic.render source m))

end ParamNarrow
