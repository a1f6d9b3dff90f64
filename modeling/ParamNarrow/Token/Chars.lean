import ParamNarrow.Text.Alphabetic
/-!
# Character classes of the scanner

Identifiers start with an ASCII letter, `_`, `$` or an alphabetic character outside ASCII, and
continue with ASCII letters and digits, `_`, `$`, and, outside ASCII, alphanumeric characters and
the two zero-width joiners. Line breaks are line feed, carriage return and the Unicode line and
paragraph separators. Blanks are the other white space characters that do not end a line.
-/

namespace ParamNarrow

/-- A character that may start an identifier. -/
def isIdentifierStart (c : Char) : Bool :=
  c.isAlpha || c == '_' || c == '$' || (128 ≤ c.toNat && Text.isAlphabetic c)

/-- A character that may continue an identifier. -/
def isIdentifierPart (c : Char) : Bool :=
  c.isAlphanum || c == '_' || c == '$' ||
    (128 ≤ c.toNat && (Text.isAlphanumeric c || c == '\u200C' || c == '\u200D'))

/-- A character that ends a line. -/
def isLineBreak (c : Char) : Bool :=
  c == '\n' || c == '\r' || c == '\u2028' || c == '\u2029'

/-- White space that does not end a line. -/
def isBlank (c : Char) : Bool :=
  c == ' ' || c == '\t' || c == '\x0b' || c == '\x0c' || c == '\u00A0' || c == '\uFEFF' ||
    c == '\u1680' || ('\u2000' ≤ c && c ≤ '\u200A') || c == '\u202F' || c == '\u205F' ||
    c == '\u3000'

/-- A whole text that reads as one identifier: a start character, then part characters. -/
def isIdentifierText (s : String) : Bool :=
  match s.toList with
  | [] => false
  | c :: rest => isIdentifierStart c && rest.all isIdentifierPart

end ParamNarrow
