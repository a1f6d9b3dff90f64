import ParamNarrow.Syntax.Parser.Cursor
/-!
# Names and binding patterns

Property names (identifiers, keywords, string and numeric literals, computed `[expr]` names) and
the binding names of declarations and parameters: an identifier, or an object or array pattern
that destructures the value.
-/

namespace ParamNarrow

namespace Parser

variable (g : Grammar)

/-- A property name: a string, numeric or big integer literal, a computed `[expr]` name, or an
identifier or keyword. A private `#name` is reported and read as its name. -/
def propertyName : ParserM Node := do
  match ← token with
  | .stringLiteral | .numericLiteral | .bigIntLiteral => literal
  | .openBracketToken =>
    let start ← tokenPos
    nextToken
    let e ← g.assignment
    let _ ← expect .closeBracketToken
    let stop ← lastEnd
    return .computedName ⟨start, stop⟩ e
  | .hashToken =>
    reportUnsupported "private name"
    nextToken
    identifierName
  | _ => identifierName

/-- An initializer `= expr`, if one follows. -/
def initializer : ParserM (Option Node) := do
  if ← accept .equalsToken then
    let e ← g.assignment
    return some e
  return none

/-- An element of an object binding pattern: `...rest`, `name`, `key: pattern`, each with an
optional initializer. A key that is no identifier needs its `: pattern`. -/
def objectBindingElement : ParserM Node := do
  let start ← tokenPos
  let rest ← accept .dotDotDotToken
  let (key, name) ← if rest then do
      let name ← identifier
      pure (none, name)
    else do
      let keyIsIdentifier ← isIdentifier
      let key ← propertyName g
      if ← accept .colonToken then
        let name ← g.bindingName
        pure (some key, name)
      else
        if !keyIsIdentifier then
          let _ ← expect .colonToken
        pure (none, key)
  let init ← initializer g
  let stop ← lastEnd
  return .bindingElement ⟨start, stop⟩ rest key name init

/-- An object binding pattern `{ a, b: c, ...d }`. -/
def objectBindingPattern : ParserM Node := do
  let start ← tokenPos
  let _ ← expect .openBraceToken
  let (elements, _) ← delimited .closeBraceToken (objectBindingElement g)
  let _ ← expect .closeBraceToken
  let stop ← lastEnd
  return .objectBindingPattern ⟨start, stop⟩ elements

/-- The elements of an array binding pattern, holes included, up to `]`. -/
def arrayBindingElements : Nat → List Node → ParserM (List Node)
  | 0, acc => return acc.reverse
  | n + 1, acc => do
    if (← isToken .closeBracketToken) || (← isToken .endOfFileToken) then return acc.reverse
    if ← isToken .commaToken then
      let pos ← tokenPos
      nextToken
      arrayBindingElements n (.omitted ⟨pos, pos⟩ :: acc)
    else
      let start ← tokenPos
      let rest ← accept .dotDotDotToken
      let name ← g.bindingName
      let init ← initializer g
      let stop ← lastEnd
      let element := Node.bindingElement ⟨start, stop⟩ rest none name init
      if ← accept .commaToken then arrayBindingElements n (element :: acc)
      else return (element :: acc).reverse

/-- An array binding pattern `[a, , ...b]`. -/
def arrayBindingPattern : ParserM Node := do
  let start ← tokenPos
  let _ ← expect .openBracketToken
  let elements ← arrayBindingElements g (← budget) []
  let _ ← expect .closeBracketToken
  let stop ← lastEnd
  return .arrayBindingPattern ⟨start, stop⟩ elements

/-- A binding name: an object pattern, an array pattern or an identifier. -/
def bindingName : ParserM Node := do
  match ← token with
  | .openBraceToken => objectBindingPattern g
  | .openBracketToken => arrayBindingPattern g
  | _ => identifier

end Parser

end ParamNarrow
