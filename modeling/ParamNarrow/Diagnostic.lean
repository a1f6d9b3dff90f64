/-!
# Diagnostics

The syntax errors that scanning and parsing report. Each kind of error is a constructor of `Message`;
its code and its text come from one table, `Message.code` and `Message.template`, and the text with
the arguments filled in is `Message.text`. A `Diagnostic` places a message in a file at a byte range.

Message templates mark argument `i` as `{i}`. Filling them in replaces, for each argument in turn,
every occurrence of its placeholder, so an argument that itself contains a later placeholder is
filled in again by the later argument.
-/

namespace ParamNarrow

/-- How serious a diagnostic is. The scanner and the parser report errors only. -/
inductive Category where
  | warning
  | error
  | suggestion
  | message
deriving Repr, DecidableEq

/-- The lower-case name of a category. -/
def Category.label : Category → String
  | .warning => "warning"
  | .error => "error"
  | .suggestion => "suggestion"
  | .message => "message"

/-- A syntax error found while scanning or parsing. -/
inductive Message where
  /-- A string literal ends at a line break or at the end of the text. -/
  | unterminatedString
  | identifierExpected
  /-- The given token was expected. -/
  | tokenExpected (token : String)
  /-- A block comment has no end. -/
  | asteriskSlashExpected
  | expressionExpected
  | typeExpected
  | invalidCharacter
  | declarationOrStatementExpected
  | unterminatedTemplate
  | unterminatedRegex
  /-- A construct outside the supported subset of the language. -/
  | unsupported (what : String)
  /-- The nesting limit of the parser was reached. -/
  | nestedTooDeeply
deriving Repr, DecidableEq

/-- Replace, for each argument `i` in turn, every `{i}` of `template` by that argument. -/
def formatMessage (template : String) (args : List String) : String :=
  (args.zipIdx).foldl (fun acc (arg, i) => acc.replace ("\x7b" ++ toString i ++ "\x7d") arg) template

/-- The numeric code of a message. -/
def Message.code : Message → Nat
  | .unterminatedString => 1002
  | .identifierExpected => 1003
  | .tokenExpected _ => 1005
  | .asteriskSlashExpected => 1010
  | .expressionExpected => 1109
  | .typeExpected => 1110
  | .invalidCharacter => 1127
  | .declarationOrStatementExpected => 1128
  | .unterminatedTemplate => 1160
  | .unterminatedRegex => 1161
  | .unsupported _ => 90001
  | .nestedTooDeeply => 90002

/-- The message text with its placeholders. -/
def Message.template : Message → String
  | .unterminatedString => "Unterminated string literal."
  | .identifierExpected => "Identifier expected."
  | .tokenExpected _ => "'\x7b0\x7d' expected."
  | .asteriskSlashExpected => "'*/' expected."
  | .expressionExpected => "Expression expected."
  | .typeExpected => "Type expected."
  | .invalidCharacter => "Invalid character."
  | .declarationOrStatementExpected => "Declaration or statement expected."
  | .unterminatedTemplate => "Unterminated template literal."
  | .unterminatedRegex => "Unterminated regular expression literal."
  | .unsupported _ => "'\x7b0\x7d' is not supported."
  | .nestedTooDeeply => "Syntax is nested too deeply."

/-- The arguments of a message. -/
def Message.args : Message → List String
  | .tokenExpected token => [token]
  | .unsupported what => [what]
  | _ => []

/-- The message text with its arguments filled in. -/
def Message.text (m : Message) : String :=
  formatMessage m.template m.args

/-- The category of a message: every syntax error is an error. -/
def Message.category (_ : Message) : Category :=
  .error

/-- A message at the byte range `[start, start + length)` of a file. -/
structure Diagnostic where
  file : String
  start : Nat
  length : Nat
  message : Message
deriving Repr, DecidableEq

/-- Whether a diagnostic is an error. -/
def Diagnostic.isError (d : Diagnostic) : Bool :=
  d.message.category == .error

end ParamNarrow
