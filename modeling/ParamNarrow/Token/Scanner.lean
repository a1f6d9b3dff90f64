import ParamNarrow.Text.Offset
import ParamNarrow.Token.Kind
import ParamNarrow.Token.Chars
import ParamNarrow.Diagnostic
/-!
# Scanner

The scanner reads one token at a time from a text. Before each token it skips trivia (blanks, line
breaks and comments), remembering whether a line break was skipped and where each comment was. A
comment followed, after blanks only, by a line break is marked as ending its line.

Three tokens depend on where the parser stands, and are read again on request: `>` merges with the
`>` and `=` after it where a shift or comparison operator may stand, `/` or `/=` becomes a regular
expression literal where an expression starts, and `}` continues a template literal after a
substitution. A scanner value is its own snapshot; `restore` returns to a snapshot while keeping the
error and comment lists of the later state cut back to their length at the snapshot.

Every loop of the scanner reads at least one byte per round, so each runs on a budget of the bytes
left in the text.
-/

namespace ParamNarrow

/-- A comment skipped as trivia, over the byte range `[pos, stop)`. -/
structure Comment where
  pos : Nat
  stop : Nat
  /-- A block comment rather than a line comment. -/
  multiLine : Bool
  /-- A line break follows the comment with only blanks between. -/
  trailingNewLine : Bool
deriving Repr, DecidableEq

/-- A lexical error at the byte range `[pos, pos + length)`. -/
structure ScanError where
  pos : Nat
  length : Nat
  message : Message
deriving Repr, DecidableEq

/-- The state of the scanner: the text, the current token and everything skipped so far. -/
structure Scanner where
  text : String
  /-- The end of the current token, where scanning resumes. -/
  pos : Nat := 0
  /-- The start of the current token's leading trivia. -/
  fullStart : Nat := 0
  /-- The start of the current token itself. -/
  tokenStart : Nat := 0
  token : TokenKind := .unknown
  /-- Identifier text, cooked string or template value, numeric or regular expression text. -/
  value : String := ""
  /-- A line break was skipped before the current token. -/
  lineBreakBefore : Bool := false
  errors : Array ScanError := #[]
  comments : Array Comment := #[]
deriving Repr

/-- The value of a hexadecimal digit byte. -/
def hexDigitValue? (b : UInt8) : Option Nat :=
  if 48 ≤ b && b ≤ 57 then some (b.toNat - 48)
  else if 65 ≤ b && b ≤ 70 then some (b.toNat - 55)
  else if 97 ≤ b && b ≤ 102 then some (b.toNat - 87)
  else none

/-- Whether a byte is an ASCII decimal digit. -/
def isDigitByte (b : UInt8) : Bool :=
  48 ≤ b && b ≤ 57

/-- The character with code point `n`, or U+FFFD where `n` is missing or no Unicode scalar value. -/
def codePointChar (n : Option Nat) : Char :=
  match n with
  | some v => if v < 0xD800 || (0xDFFF < v && v < 0x110000) then Char.ofNat v else '\uFFFD'
  | none => '\uFFFD'

namespace Scanner

/-- A scanner at the start of `text`. -/
def new (text : String) : Scanner :=
  { text }

/-- The size of the text in bytes. -/
def size (s : Scanner) : Nat :=
  s.text.utf8ByteSize

/-- The end of the current token. -/
def tokenEnd (s : Scanner) : Nat :=
  s.pos

/-- The source text of the current token. -/
def tokenText (s : Scanner) : String :=
  Text.sliceOr s.text s.tokenStart s.pos

/-- The character at offset `p`. -/
def charAt? (s : Scanner) (p : Nat) : Option Char :=
  Text.charAt? s.text p

/-- Whether the byte at offset `p` is the ASCII character `c`. -/
def byteIs (s : Scanner) (p : Nat) (c : Char) : Bool :=
  Text.byteIs s.text p c

/-- Whether the byte at offset `p` satisfies `f`. -/
def byteSat (s : Scanner) (p : Nat) (f : UInt8 → Bool) : Bool :=
  (Text.byteAt? s.text p).any f

/-- Record a lexical error. -/
def addError (s : Scanner) (pos length : Nat) (message : Message) : Scanner :=
  { s with errors := s.errors.push ⟨pos, length, message⟩ }

/-- End the current token `len` bytes further on, with kind `kind`. -/
def finish (s : Scanner) (len : Nat) (kind : TokenKind) : Scanner :=
  { s with pos := s.pos + len, token := kind }

/-- Append a character to the token value. -/
def pushValue (s : Scanner) (c : Char) : Scanner :=
  { s with value := s.value.push c }

/-- Return to the snapshot `saved`, cutting the error and comment lists of `s` back to their
length at the snapshot. -/
def restore (s saved : Scanner) : Scanner :=
  { saved with
    errors := s.errors.extract 0 saved.errors.size
    comments := s.comments.extract 0 saved.comments.size }

/-! ### Trivia -/

/-- Skip a byte order mark and a `#!` line at the very start of the text. -/
def skipShebang (s : Scanner) : Scanner :=
  if s.pos != 0 then s
  else
    let start := if s.charAt? 0 == some '\uFEFF' then 3 else 0
    if s.byteIs start '#' && s.byteIs (start + 1) '!' then
      { s with pos := Text.findByteFrom s.text 0 Text.isNewlineByte }
    else { s with pos := start }

/-- Record a comment over `[start, pos)`, unless the last recorded comment starts at or after
`start` (a rescan reads text again). -/
def recordComment (s : Scanner) (start : Nat) (multiLine : Bool) : Scanner :=
  match s.comments.back? with
  | some last => if start ≤ last.pos then s else
      { s with comments := s.comments.push ⟨start, s.pos, multiLine, false⟩ }
  | none => { s with comments := s.comments.push ⟨start, s.pos, multiLine, false⟩ }

/-- At a line break: mark the last comment as ending its line when only blanks lie between. -/
def markLineEnd (s : Scanner) : Scanner :=
  match s.comments.back? with
  | some last =>
    if Text.bytesAll s.text last.stop s.pos (fun b => b == 32 || b == 9) then
      let ended := s.comments.modify (s.comments.size - 1) fun c => { c with trailingNewLine := true }
      { s with comments := ended }
    else s
  | none => s

/-- Skip a `//` comment up to the next line feed or carriage return. -/
def skipLineComment (s : Scanner) : Scanner :=
  let start := s.pos
  { s with pos := Text.findByteFrom s.text start Text.isNewlineByte }.recordComment start false

/-- The offset of the first `*/` at or after `p`, if any. -/
def findCommentClose (text : String) (p : Nat) : Option Nat :=
  ((List.range (text.utf8ByteSize - p)).find? fun k =>
    Text.byteIs text (p + k) '*' && Text.byteIs text (p + k + 1) '/').map (p + ·)

/-- Skip a `/* */` comment. Without its closing `*/` it runs to the end of the text, with an
error there. A line break inside counts as a line break before the next token. -/
def skipBlockComment (s : Scanner) : Scanner :=
  let start := s.pos
  let bodyStart := s.pos + 2
  let (s, bodyEnd, stop) := match findCommentClose s.text bodyStart with
    | some close => (s, close, close + 2)
    | none => (s.addError s.size 0 .asteriskSlashExpected, s.size, s.size)
  let body := Text.sliceOr s.text bodyStart bodyEnd
  let s := if body.any isLineBreak then { s with lineBreakBefore := true } else s
  { s with pos := stop }.recordComment start true

/-! ### Literals -/

/-- Read up to `n` hexadecimal digits, returning how many were read and their value. -/
def hexDigits (s : Scanner) : Nat → Scanner × Nat × Nat
  | 0 => (s, 0, 0)
  | n + 1 =>
    match (Text.byteAt? s.text s.pos).bind hexDigitValue? with
    | none => (s, 0, 0)
    | some d =>
      let (s', count, value) := hexDigits { s with pos := s.pos + 1 } n
      (s', count + 1, d * Nat.pow 16 count + value)

/-- Read between `min` and `max` hexadecimal digits: the value, if at least `min` were read. -/
def hexEscape (s : Scanner) (min max : Nat) : Scanner × Option Nat :=
  let (s, count, value) := s.hexDigits max
  (s, if min ≤ count then some value else none)

/-- Read an escape sequence starting at the backslash and append its cooked value. -/
def scanEscape (s : Scanner) : Scanner :=
  let s := { s with pos := s.pos + 1 }
  match s.charAt? s.pos with
  | none => s
  | some c =>
    let s := { s with pos := s.pos + c.utf8Size }
    match c with
    | 'n' => s.pushValue '\n'
    | 't' => s.pushValue '\t'
    | 'r' => s.pushValue '\r'
    | 'b' => s.pushValue '\x08'
    | 'f' => s.pushValue '\x0c'
    | 'v' => s.pushValue '\x0b'
    | '0' => if s.byteSat s.pos isDigitByte then s.pushValue '0' else s.pushValue '\x00'
    | 'x' =>
      let (s, v) := s.hexEscape 2 2
      s.pushValue (codePointChar v)
    | 'u' =>
      if s.byteIs s.pos '{' then
        let (s, v) := { s with pos := s.pos + 1 }.hexEscape 1 6
        let s := if s.byteIs s.pos '}' then { s with pos := s.pos + 1 } else s
        s.pushValue (codePointChar v)
      else
        let (s, v) := s.hexEscape 4 4
        s.pushValue (codePointChar v)
    | '\r' => if s.byteIs s.pos '\n' then { s with pos := s.pos + 1 } else s
    | '\n' => s
    | '\u2028' => s
    | '\u2029' => s
    | other => s.pushValue other

/-- The body of a string literal quoted by `quote`, which opened at `start`. -/
def stringBody (quote : Char) (start : Nat) : Nat → Scanner → Scanner
  | 0, s => s
  | n + 1, s =>
    match s.charAt? s.pos with
    | none => s.addError start (s.pos - start) .unterminatedString
    | some c =>
      if c == quote then { s with pos := s.pos + 1 }
      else if c == '\\' then stringBody quote start n s.scanEscape
      else if c == '\n' || c == '\r' then s.addError start (s.pos - start) .unterminatedString
      else stringBody quote start n { s.pushValue c with pos := s.pos + c.utf8Size }

/-- A string literal opened by `quote` at the current position. -/
def scanString (s : Scanner) (quote : Char) : Scanner :=
  let start := s.pos
  let s := stringBody quote start (s.size - s.pos + 1) { s with pos := s.pos + 1 }
  { s with token := .stringLiteral }

/-- The text of a template literal after its opening backtick (`fromBacktick`) or after the `}`
that closes a substitution. Line ends `CR` and `CR LF` read as a line feed. -/
def templateBody (fromBacktick : Bool) (start : Nat) : Nat → Scanner → Scanner
  | 0, s => s
  | n + 1, s =>
    let closed := if fromBacktick then TokenKind.noSubstitutionTemplateLiteral else .templateTail
    match s.charAt? s.pos with
    | none =>
      { s.addError start (s.pos - start) .unterminatedTemplate with token := closed }
    | some c =>
      if c == '`' then { s with pos := s.pos + 1, token := closed }
      else if c == '$' && s.byteIs (s.pos + 1) '{' then
        { s with pos := s.pos + 2, token := if fromBacktick then .templateHead else .templateMiddle }
      else if c == '\\' then templateBody fromBacktick start n s.scanEscape
      else if c == '\r' then
        let s := { s with pos := s.pos + 1 }
        let s := if s.byteIs s.pos '\n' then { s with pos := s.pos + 1 } else s
        templateBody fromBacktick start n (s.pushValue '\n')
      else templateBody fromBacktick start n { s.pushValue c with pos := s.pos + c.utf8Size }

/-- Continue a template literal from the current position. -/
def scanTemplate (s : Scanner) (fromBacktick : Bool) : Scanner :=
  templateBody fromBacktick s.tokenStart (s.size - s.pos + 1) s

/-- Skip decimal digits and `_`. -/
def skipDecimalDigits (s : Scanner) : Nat → Scanner
  | 0 => s
  | n + 1 =>
    if s.byteSat s.pos (fun b => isDigitByte b || b == 95) then
      skipDecimalDigits { s with pos := s.pos + 1 } n
    else s

/-- Skip hexadecimal digits and `_`. -/
def skipHexDigits (s : Scanner) : Nat → Scanner
  | 0 => s
  | n + 1 =>
    if s.byteSat s.pos (fun b => (hexDigitValue? b).isSome || b == 95) then
      skipHexDigits { s with pos := s.pos + 1 } n
    else s

/-- A numeric literal: after a radix prefix `0x`, `0o` or `0b` (either case) any hexadecimal
digits; otherwise digits, an optional fraction, and an exponent only when a digit follows its
optional sign. A final `n` makes it a big integer. The value is the text. -/
def scanNumber (s : Scanner) : Scanner :=
  let start := s.pos
  let budget := s.size - s.pos + 1
  let radix := s.byteIs s.pos '0' &&
    s.byteSat (s.pos + 1) (fun b => b == 120 || b == 88 || b == 111 || b == 79 || b == 98 || b == 66)
  let s :=
    if radix then skipHexDigits { s with pos := s.pos + 2 } budget
    else
      let s := skipDecimalDigits s budget
      let s := if s.byteIs s.pos '.' then skipDecimalDigits { s with pos := s.pos + 1 } budget else s
      if s.byteIs s.pos 'e' || s.byteIs s.pos 'E' then
        let exp := if s.byteIs (s.pos + 1) '+' || s.byteIs (s.pos + 1) '-' then s.pos + 2 else s.pos + 1
        if s.byteSat exp isDigitByte then skipDecimalDigits { s with pos := exp } budget else s
      else s
  let (s, kind) :=
    if s.byteIs s.pos 'n' then ({ s with pos := s.pos + 1 }, TokenKind.bigIntLiteral)
    else (s, TokenKind.numericLiteral)
  { s with value := s.value ++ Text.sliceOr s.text start s.pos, token := kind }

/-- Skip identifier part characters. -/
def skipIdentifierParts (s : Scanner) : Nat → Scanner
  | 0 => s
  | n + 1 =>
    match s.charAt? s.pos with
    | some c => if isIdentifierPart c then skipIdentifierParts { s with pos := s.pos + c.utf8Size } n else s
    | none => s

/-- An identifier or keyword starting at the current position. -/
def scanIdentifier (s : Scanner) : Scanner :=
  let start := s.pos
  let s := skipIdentifierParts s (s.size - s.pos + 1)
  let word := s.value ++ Text.sliceOr s.text start s.pos
  { s with value := word, token := (keywordKind? word).getD .identifier }

/-! ### Tokens -/

/-- The punctuation token starting with `c` at the current position, by longest match. -/
def scanPunctuation (s : Scanner) (c : Char) : Scanner :=
  let at1 := s.byteIs (s.pos + 1)
  let at2 := s.byteIs (s.pos + 2)
  match c with
  | '{' => s.finish 1 .openBraceToken
  | '}' => s.finish 1 .closeBraceToken
  | '(' => s.finish 1 .openParenToken
  | ')' => s.finish 1 .closeParenToken
  | '[' => s.finish 1 .openBracketToken
  | ']' => s.finish 1 .closeBracketToken
  | ';' => s.finish 1 .semicolonToken
  | ',' => s.finish 1 .commaToken
  | ':' => s.finish 1 .colonToken
  | '~' => s.finish 1 .tildeToken
  | '@' => s.finish 1 .atToken
  | '#' => s.finish 1 .hashToken
  | '?' =>
    if at1 '?' && at2 '=' then s.finish 3 .questionQuestionEqualsToken
    else if at1 '?' then s.finish 2 .questionQuestionToken
    else if at1 '.' && s.byteSat (s.pos + 2) isDigitByte then s.finish 1 .questionToken
    else if at1 '.' then s.finish 2 .questionDotToken
    else s.finish 1 .questionToken
  | '=' =>
    if at1 '=' && at2 '=' then s.finish 3 .equalsEqualsEqualsToken
    else if at1 '=' then s.finish 2 .equalsEqualsToken
    else if at1 '>' then s.finish 2 .equalsGreaterThanToken
    else s.finish 1 .equalsToken
  | '!' =>
    if at1 '=' && at2 '=' then s.finish 3 .exclamationEqualsEqualsToken
    else if at1 '=' then s.finish 2 .exclamationEqualsToken
    else s.finish 1 .exclamationToken
  | '+' =>
    if at1 '+' then s.finish 2 .plusPlusToken
    else if at1 '=' then s.finish 2 .plusEqualsToken
    else s.finish 1 .plusToken
  | '-' =>
    if at1 '-' then s.finish 2 .minusMinusToken
    else if at1 '=' then s.finish 2 .minusEqualsToken
    else s.finish 1 .minusToken
  | '*' =>
    if at1 '*' && at2 '=' then s.finish 3 .asteriskAsteriskEqualsToken
    else if at1 '*' then s.finish 2 .asteriskAsteriskToken
    else if at1 '=' then s.finish 2 .asteriskEqualsToken
    else s.finish 1 .asteriskToken
  | '%' => if at1 '=' then s.finish 2 .percentEqualsToken else s.finish 1 .percentToken
  | '&' =>
    if at1 '&' && at2 '=' then s.finish 3 .ampersandAmpersandEqualsToken
    else if at1 '&' then s.finish 2 .ampersandAmpersandToken
    else if at1 '=' then s.finish 2 .ampersandEqualsToken
    else s.finish 1 .ampersandToken
  | '|' =>
    if at1 '|' && at2 '=' then s.finish 3 .barBarEqualsToken
    else if at1 '|' then s.finish 2 .barBarToken
    else if at1 '=' then s.finish 2 .barEqualsToken
    else s.finish 1 .barToken
  | '^' => if at1 '=' then s.finish 2 .caretEqualsToken else s.finish 1 .caretToken
  | '<' =>
    if at1 '<' && at2 '=' then s.finish 3 .lessThanLessThanEqualsToken
    else if at1 '<' then s.finish 2 .lessThanLessThanToken
    else if at1 '=' then s.finish 2 .lessThanEqualsToken
    else s.finish 1 .lessThanToken
  | '>' => s.finish 1 .greaterThanToken
  | '/' => if at1 '=' then s.finish 2 .slashEqualsToken else s.finish 1 .slashToken
  | '.' =>
    if at1 '.' && at2 '.' then s.finish 3 .dotDotDotToken else s.finish 1 .dotToken
  | _ =>
    if isIdentifierStart c then s.scanIdentifier
    else { s with pos := s.pos + c.utf8Size, token := .unknown }

/-- The token that starts with `c` at the current position, after the trivia. -/
def scanAt (s : Scanner) (c : Char) : Scanner :=
  if c == '"' || c == '\'' then s.scanString c
  else if c == '`' then { s with pos := s.pos + 1 }.scanTemplate true
  else if c.isDigit || (c == '.' && s.byteSat (s.pos + 1) isDigitByte) then s.scanNumber
  else s.scanPunctuation c

/-- Skip trivia, then read one token. -/
def scanLoop : Nat → Scanner → Scanner
  | 0, s => s
  | n + 1, s =>
    let s := { s with tokenStart := s.pos }
    match s.charAt? s.pos with
    | none => { s with token := .endOfFileToken }
    | some c =>
      if isLineBreak c then
        scanLoop n { s.markLineEnd with lineBreakBefore := true, pos := s.pos + c.utf8Size }
      else if isBlank c then scanLoop n { s with pos := s.pos + c.utf8Size }
      else if c == '/' && s.byteIs (s.pos + 1) '/' then scanLoop n s.skipLineComment
      else if c == '/' && s.byteIs (s.pos + 1) '*' then scanLoop n s.skipBlockComment
      else s.scanAt c

/-- Read the next token. -/
def scan (s : Scanner) : Scanner :=
  scanLoop (s.size - s.pos + 1) { s with fullStart := s.pos, lineBreakBefore := false, value := "" }

/-! ### Rescans -/

/-- Merge a `>` token with the `>` and `=` characters after it. -/
def rescanGreater (s : Scanner) : Scanner :=
  if s.token != .greaterThanToken then s
  else
    let at0 := s.byteIs s.pos
    let at1 := s.byteIs (s.pos + 1)
    let at2 := s.byteIs (s.pos + 2)
    if at0 '>' && at1 '>' && at2 '=' then
      { s with pos := s.pos + 3, token := .greaterThanGreaterThanGreaterThanEqualsToken }
    else if at0 '>' && at1 '>' then
      { s with pos := s.pos + 2, token := .greaterThanGreaterThanGreaterThanToken }
    else if at0 '>' && at1 '=' then
      { s with pos := s.pos + 2, token := .greaterThanGreaterThanEqualsToken }
    else if at0 '>' then { s with pos := s.pos + 1, token := .greaterThanGreaterThanToken }
    else if at0 '=' then { s with pos := s.pos + 1, token := .greaterThanEqualsToken }
    else s

/-- The body of a regular expression literal that opened at `start`; `inClass` inside `[...]`. -/
def regexBody (start : Nat) : Nat → Bool → Scanner → Scanner
  | 0, _, s => s
  | n + 1, inClass, s =>
    match s.charAt? s.pos with
    | none => s.addError start (s.pos - start) .unterminatedRegex
    | some c =>
      if isLineBreak c then s.addError start (s.pos - start) .unterminatedRegex
      else
        let s := { s with pos := s.pos + c.utf8Size }
        if c == '\\' then
          match s.charAt? s.pos with
          | some e => if isLineBreak e then regexBody start n inClass s
              else regexBody start n inClass { s with pos := s.pos + e.utf8Size }
          | none => regexBody start n inClass s
        else if c == '[' then regexBody start n true s
        else if c == ']' then regexBody start n false s
        else if c == '/' && !inClass then s
        else regexBody start n inClass s

/-- Read a `/` or `/=` token again as a regular expression literal with its flags. -/
def rescanSlash (s : Scanner) : Scanner :=
  if s.token != .slashToken && s.token != .slashEqualsToken then s
  else
    let start := s.tokenStart
    let s := regexBody start (s.size + 1) false { s with pos := start + 1 }
    let s := skipIdentifierParts s (s.size - s.pos + 1)
    { s with value := Text.sliceOr s.text start s.pos, token := .regularExpressionLiteral }

/-- Read a `}` token again as the continuation of a template literal. -/
def rescanTemplate (s : Scanner) : Scanner :=
  if s.token != .closeBraceToken then s
  else { s with pos := s.tokenStart + 1, value := "" }.scanTemplate false

end Scanner

end ParamNarrow
