import ParamNarrow.Narrowing.Run
/-!
# The configuration file

A configuration file, `tsprune.json`, is one JSON object whose keys are all optional:
`projection` (`"pick"` or `"literal"`), `newLine` (`"lf"` or `"crlf"`, also upper case) and
`indentSize` (an integer of 32 bits). An unknown or repeated key is refused. A JSON array of up to
three elements gives the same values by position, and `null` leaves a value unset. A variant may
also be written as an object `{"literal": null}`.

The reader goes through the text once, left to right, and stops at the first problem. A refused
text is classified by its first problem:

* `eof`: the text ends inside a value, or is empty;
* `syntax`: the text is not JSON, or a value stands where it cannot (a number for a projection),
  or something follows the value;
* `data`: well-formed JSON of the wrong shape: a value of another type, an unknown key or variant, a
  repeated key, a number out of range.

Numbers are read as a double would read them: one whose value overflows a double is a syntax error,
even where no number is expected.
-/

namespace ParamNarrow

/-- The line end of printed text. -/
inductive LineEnding where
  | lf
  | crlf
deriving Repr, DecidableEq, Inhabited

/-- The characters of a line end. -/
def LineEnding.text : LineEnding → String
  | .lf => "\n"
  | .crlf => "\r\n"

/-- The settings of a configuration file; each one may be unset. -/
structure Config where
  projection : Option ProjectionStyle := none
  newLine : Option LineEnding := none
  indentSize : Option Nat := none
deriving Repr, DecidableEq, Inhabited

namespace ConfigText

/-- The kind of the first problem of a refused configuration text. -/
inductive Failure where
  | malformed
  | data
  | eof
deriving Repr, DecidableEq, Inhabited

/-- The name of a kind of problem. -/
def Failure.label : Failure → String
  | .malformed => "syntax"
  | .data => "data"
  | .eof => "eof"

/-- A reader of the characters left to read. -/
abbrev Reader := StateT (List Char) (Except Failure)

/-- The next character, not read. -/
def peek : Reader (Option Char) := do
  return (← get).head?

/-- Read one character. -/
def bump : Reader Unit :=
  modify List.tail

/-- Read the next character. -/
def nextChar : Reader (Option Char) := do
  match ← get with
  | [] => return none
  | c :: rest => set rest; return some c

/-- Blanks between JSON tokens. -/
def isBlank (c : Char) : Bool :=
  c == ' ' || c == '\n' || c == '\t' || c == '\r'

/-- Skip blanks, then look at the next character. -/
def blank : Reader (Option Char) := do
  modify (List.dropWhile isBlank)
  peek

/-- The rest of `null`, `true` or `false` after its first letter. -/
def keyword : List Char → Reader Unit
  | [] => pure ()
  | c :: cs => do
    match ← nextChar with
    | none => throw .eof
    | some d => if d == c then keyword cs else throw .malformed

/-- The value of a hexadecimal digit. -/
def hexValue (c : Char) : Option Nat :=
  if '0' ≤ c ∧ c ≤ '9' then some (c.toNat - '0'.toNat)
  else if 'a' ≤ c ∧ c ≤ 'f' then some (c.toNat - 'a'.toNat + 10)
  else if 'A' ≤ c ∧ c ≤ 'F' then some (c.toNat - 'A'.toNat + 10)
  else none

/-- The four hexadecimal digits of a `\u` escape. With fewer than four bytes left the string is
unfinished. -/
def hexEscape : Reader Nat := do
  let rest ← get
  if ((rest.take 4).map Char.utf8Size).foldl (· + ·) 0 < 4 then throw .eof
  else
    match (rest.take 4).mapM hexValue with
    | some [a, b, c, d] =>
      set (rest.drop 4)
      return ((a * 16 + b) * 16 + c) * 16 + d
    | _ => throw .malformed

/-- The character of a `\u` escape after the `u`. A leading surrogate must be followed by an
escaped trailing one, and the pair stands for one character; a lone surrogate is refused. -/
def unicodeEscape : Reader Char := do
  let n ← hexEscape
  if 0xDC00 ≤ n ∧ n ≤ 0xDFFF then throw .malformed
  else if n < 0xD800 ∨ 0xDBFF < n then return Char.ofNat n
  else
    match ← peek with
    | none => throw .eof
    | some '\\' =>
      bump
      match ← peek with
      | none => throw .eof
      | some 'u' =>
        bump
        let m ← hexEscape
        if m < 0xDC00 ∨ 0xDFFF < m then throw .malformed
        else return Char.ofNat ((n - 0xD800) * 0x400 + (m - 0xDC00) + 0x10000)
      | some _ => throw .malformed
    | some _ => throw .malformed

/-- The character of an escape after its backslash. -/
def escape : Reader Char := do
  match ← nextChar with
  | none => throw .eof
  | some '"' => return '"'
  | some '\\' => return '\\'
  | some '/' => return '/'
  | some 'b' => return '\x08'
  | some 'f' => return '\x0c'
  | some 'n' => return '\n'
  | some 'r' => return '\r'
  | some 't' => return '\t'
  | some 'u' => unicodeEscape
  | some _ => throw .malformed

/-- The rest of a string after the characters `acc` (reversed); every step reads a character, so
`fuel` above the length of the text is never the limit. -/
def stringBody : Nat → List Char → Reader String
  | 0, _ => throw .eof
  | fuel + 1, acc => do
    match ← nextChar with
    | none => throw .eof
    | some '"' => return String.ofList acc.reverse
    | some '\\' =>
      let c ← escape
      stringBody fuel (c :: acc)
    | some c => if c.toNat < 0x20 then throw .malformed else stringBody fuel (c :: acc)

/-- A string after its opening quote. -/
def string : Reader String := do
  stringBody ((← get).length + 1) []

/-- The largest integer of 64 bits. -/
def maxWord64 : Nat :=
  18446744073709551615

/-- The largest integer of 32 bits, signed. -/
def maxInt32 : Int :=
  2147483647

/-- An integer held to the signed 32-bit range. -/
def saturate (x : Int) : Int :=
  max (-maxInt32 - 1) (min maxInt32 x)

/-- `n` rounded to a double's 53 significant bits, to nearest, ties to even. -/
def roundToDouble (n : Nat) : Nat :=
  let bits := Nat.log2 n + 1
  if bits ≤ 53 then n
  else
    let s := bits - 53
    let q := n / Nat.pow 2 s
    let r := n % Nat.pow 2 s
    let half := Nat.pow 2 (s - 1)
    let q := if half < r || (r == half && q % 2 == 1) then q + 1 else q
    q * Nat.pow 2 s

/-- Whether `significand · 10^exponent`, computed in doubles as a significand times a power of ten
from a table of `10^0` to `10^308`, overflows. -/
def overflows (significand : Nat) (exponent : Int) : Bool :=
  significand != 0 && 0 ≤ exponent &&
    (308 < exponent ||
      Nat.pow 2 1024 - Nat.pow 2 970 ≤
        roundToDouble significand * roundToDouble (Nat.pow 10 exponent.toNat))

/-- A number, as far as a setting cares: an integer without sign, or anything else. -/
inductive Number where
  | unsigned (n : Nat)
  | other
deriving Repr, DecidableEq, Inhabited

/-- The end of a number with `significand · 10^exponent`, read as a double. -/
def fromParts (significand : Nat) (exponent : Int) : Reader Number :=
  if overflows significand exponent then throw .malformed else pure .other

/-- Skip digits; `fuel` bounds the steps. -/
def skipDigits : Nat → Reader Unit
  | 0 => pure ()
  | fuel + 1 => do
    match ← peek with
    | some c => if c.isDigit then bump; skipDigits fuel else pure ()
    | none => pure ()

/-- The exponent's digits after the first, with `e` the exponent so far; an exponent past the 32-bit
range makes a non-zero number with a positive exponent overflow, and a zero one otherwise. -/
def exponentDigits (significand : Nat) (start : Int) (positiveExp : Bool) :
    Nat → Nat → Reader Number
  | 0, _ => throw .eof
  | fuel + 1, e => do
    match ← peek with
    | some c =>
      if c.isDigit then
        let d := c.toNat - '0'.toNat
        if maxInt32 < (e * 10 + d : Nat) then
          if significand != 0 && positiveExp then throw .malformed
          else skipDigits (fuel + 1); pure .other
        else bump; exponentDigits significand start positiveExp fuel (e * 10 + d)
      else
        fromParts significand (saturate (if positiveExp then start + e else start - e))
    | none => fromParts significand (saturate (if positiveExp then start + e else start - e))

/-- An exponent, at its `e`, of a number whose digits give `significand · 10^start`. -/
def exponent (significand : Nat) (start : Int) : Reader Number := do
  bump
  let positiveExp ← match ← peek with
    | some '+' => bump; pure true
    | some '-' => bump; pure false
    | _ => pure true
  match ← nextChar with
  | none => throw .eof
  | some c =>
    if c.isDigit then exponentDigits significand start positiveExp ((← get).length + 1) (c.toNat - '0'.toNat)
    else throw .malformed

/-- Whether a character starts an exponent. -/
def isExponentMark (c : Char) : Bool :=
  c == 'e' || c == 'E'

/-- The fraction's digits once the significand is full: they are skipped. -/
def fractionOverflow (significand : Nat) (e : Int) : Reader Number := do
  skipDigits ((← get).length + 1)
  match ← peek with
  | some c => if isExponentMark c then exponent significand e else fromParts significand e
  | none => fromParts significand e

/-- The fraction's digits, with `taken` of them read so far. -/
def fractionDigits (before : Int) : Nat → Nat → Nat → Reader Number
  | 0, _, _ => throw .eof
  | fuel + 1, significand, taken => do
    let e := before - taken
    match ← peek with
    | some c =>
      if c.isDigit then
        let d := c.toNat - '0'.toNat
        if maxWord64 < significand * 10 + d then fractionOverflow significand e
        else bump; fractionDigits before fuel (significand * 10 + d) (taken + 1)
      else if taken == 0 then throw .malformed
      else if isExponentMark c then exponent significand e
      else fromParts significand e
    | none => if taken == 0 then throw .eof else fromParts significand e

/-- A fraction, at its `.`. -/
def fraction (significand : Nat) (before : Int) : Reader Number := do
  bump
  fractionDigits before ((← get).length + 1) significand 0

/-- The integer digits left once the significand is full: each one scales it by ten. -/
def longInteger (significand : Nat) : Nat → Int → Reader Number
  | 0, _ => throw .eof
  | fuel + 1, e => do
    match ← peek with
    | some c =>
      if c.isDigit then bump; longInteger significand fuel (e + 1)
      else if c == '.' then fraction significand e
      else if isExponentMark c then exponent significand e
      else fromParts significand e
    | none => fromParts significand e

/-- What follows the integer digits: a fraction, an exponent, or the end of the number. -/
def afterInteger (positive : Bool) (significand : Nat) : Reader Number := do
  match ← peek with
  | some '.' => fraction significand 0
  | some c =>
    if isExponentMark c then exponent significand 0
    else return if positive then .unsigned significand else .other
  | none => return if positive then .unsigned significand else .other

/-- The integer digits after the first. -/
def integerDigits (positive : Bool) : Nat → Nat → Reader Number
  | 0, _ => throw .eof
  | fuel + 1, significand => do
    match ← peek with
    | some c =>
      if c.isDigit then
        let d := c.toNat - '0'.toNat
        if maxWord64 < significand * 10 + d then longInteger significand ((← get).length + 1) 0
        else bump; integerDigits positive fuel (significand * 10 + d)
      else afterInteger positive significand
    | none => afterInteger positive significand

/-- A number after its sign. A leading zero stands alone. -/
def number (positive : Bool) : Reader Number := do
  match ← nextChar with
  | none => throw .eof
  | some '0' =>
    match ← peek with
    | some c => if c.isDigit then throw .malformed else afterInteger positive 0
    | none => afterInteger positive 0
  | some c =>
    if c.isDigit then integerDigits positive ((← get).length + 1) (c.toNat - '0'.toNat)
    else throw .malformed

/-- A value of a type the setting does not take: it is read through, so that a malformed value is
a syntax error, and then refused. -/
def refuse {α : Type} : Reader α := do
  match ← peek with
  | some 'n' => bump; keyword ['u', 'l', 'l']; throw .data
  | some 't' => bump; keyword ['r', 'u', 'e']; throw .data
  | some 'f' => bump; keyword ['a', 'l', 's', 'e']; throw .data
  | some '-' => bump; let _ ← number false; throw .data
  | some '"' => bump; let _ ← string; throw .data
  | some '[' => throw .data
  | some '{' => throw .data
  | some c => if c.isDigit then do let _ ← number true; throw .data else throw .malformed
  | none => throw .malformed

/-- A string value. -/
def stringValue : Reader String := do
  match ← blank with
  | none => throw .eof
  | some '"' => bump; string
  | some _ => refuse

/-- The colon after a key. -/
def colon : Reader Unit := do
  match ← blank with
  | some ':' => bump
  | some _ => throw .malformed
  | none => throw .eof

/-- `null`. -/
def unitValue : Reader Unit := do
  match ← blank with
  | none => throw .eof
  | some 'n' => bump; keyword ['u', 'l', 'l']
  | some _ => refuse

/-- The variant named `s`. -/
def variantNamed {α : Type} (variants : List (String × α)) (s : String) : Reader α :=
  match variants.find? (·.1 == s) with
  | some (_, v) => pure v
  | none => throw .data

/-- A variant without data: its name as a string, or an object `{"name": null}`. -/
def variantValue {α : Type} (variants : List (String × α)) : Reader α := do
  match ← blank with
  | some '{' =>
    bump
    let v ← variantNamed variants (← stringValue)
    colon
    unitValue
    match ← blank with
    | some '}' => bump; return v
    | some _ => throw .malformed
    | none => throw .eof
  | some '"' => bump; variantNamed variants (← string)
  | some _ => throw .malformed
  | none => throw .eof

/-- A value that may be `null`. -/
def optionValue {α : Type} (p : Reader α) : Reader (Option α) := do
  match ← blank with
  | some 'n' => bump; keyword ['u', 'l', 'l']; return none
  | _ => some <$> p

/-- An integer of 32 bits. -/
def wordValue : Reader Nat := do
  match ← blank with
  | none => throw .eof
  | some '-' => bump; let _ ← number false; throw .data
  | some c =>
    if c.isDigit then
      match ← number true with
      | .unsigned n => if n ≤ 4294967295 then pure n else throw .data
      | .other => throw .data
    else refuse

/-- The projection styles by name. -/
def projections : List (String × ProjectionStyle) :=
  [("pick", .pick), ("literal", .literal)]

/-- The line ends by name. -/
def lineEndings : List (String × LineEnding) :=
  [("lf", .lf), ("LF", .lf), ("crlf", .crlf), ("CRLF", .crlf)]

/-- The keys of a configuration object. -/
inductive Key where
  | projection
  | newLine
  | indentSize
deriving Repr, DecidableEq, Inhabited

/-- The key named `s`. -/
def keyNamed (s : String) : Reader Key :=
  if s == "projection" then pure .projection
  else if s == "newLine" then pure .newLine
  else if s == "indentSize" then pure .indentSize
  else throw .data

/-- The settings read so far: `some` once a key was given, even as `null`. -/
structure Given where
  projection : Option (Option ProjectionStyle) := none
  newLine : Option (Option LineEnding) := none
  indentSize : Option (Option Nat) := none

/-- The settings given. -/
def Given.config (g : Given) : Config :=
  { projection := g.projection.join, newLine := g.newLine.join, indentSize := g.indentSize.join }

/-- The key that starts at `c`: a string. -/
def keyAt (c : Option Char) : Reader (Option Key) := do
  match c with
  | some '"' => bump; some <$> keyNamed (← string)
  | some _ => throw .malformed
  | none => throw .eof

/-- The next key of an object, or none at its end. -/
def nextKey (first : Bool) : Reader (Option Key) := do
  match ← blank with
  | some '}' => return none
  | some ',' => if first then keyAt (some ',') else do bump; keyAt (← blank)
  | some c => if first then keyAt (some c) else throw .malformed
  | none => throw .eof

/-- The entries of an object; every entry reads its key's quote, so `fuel` above the length of the
text is never the limit. -/
def entries : Nat → Bool → Given → Reader Given
  | 0, _, _ => throw .eof
  | fuel + 1, first, g => do
    match ← nextKey first with
    | none => return g
    | some .projection =>
      if g.projection.isSome then throw .data
      colon
      let v ← optionValue (variantValue projections)
      entries fuel false { g with projection := some v }
    | some .newLine =>
      if g.newLine.isSome then throw .data
      colon
      let v ← optionValue (variantValue lineEndings)
      entries fuel false { g with newLine := some v }
    | some .indentSize =>
      if g.indentSize.isSome then throw .data
      colon
      let v ← optionValue wordValue
      entries fuel false { g with indentSize := some v }

/-- The element that starts at `c`. -/
def elementAt {α : Type} (p : Reader α) (c : Option Char) : Reader (Option α) := do
  match c with
  | some ']' => throw .malformed
  | some _ => some <$> p
  | none => throw .eof

/-- The next element of an array, or none at its end. -/
def element {α : Type} (first : Bool) (p : Reader α) : Reader (Option α) := do
  match ← blank with
  | some ']' => return none
  | some ',' => if first then elementAt p (some ',') else do bump; elementAt p (← blank)
  | some c => if first then elementAt p (some c) else throw .malformed
  | none => throw .eof

/-- The end of an array of settings: nothing may follow the third. -/
def endArray : Reader Unit := do
  match ← blank with
  | some ']' => bump
  | some _ => throw .malformed
  | none => throw .eof

/-- The end of an object. -/
def endObject : Reader Unit := do
  match ← blank with
  | some '}' => bump
  | some _ => throw .malformed
  | none => throw .eof

/-- A configuration: an object, or an array of the settings by position. -/
def config : Reader Config := do
  match ← blank with
  | none => throw .eof
  | some '[' =>
    bump
    let projection ← element true (optionValue (variantValue projections))
    let newLine ← element false (optionValue (variantValue lineEndings))
    let indentSize ← element false (optionValue wordValue)
    endArray
    return { projection := projection.join, newLine := newLine.join,
             indentSize := indentSize.join }
  | some '{' =>
    bump
    let g ← entries ((← get).length + 1) true {}
    endObject
    return g.config
  | some _ => refuse

/-- A whole configuration text: a configuration, then only blanks. -/
def document : Reader Config := do
  let c ← config
  match ← blank with
  | some _ => throw .malformed
  | none => return c

end ConfigText

/-- Read a configuration text. -/
def parseConfig (text : String) : Except ConfigText.Failure Config :=
  (ConfigText.document.run text.toList).map Prod.fst

/-- The options of a run: a flag wins over the configuration, which wins over the default. -/
def Config.options (c : Config) (projection : Option ProjectionStyle) (newLine : Option LineEnding)
    (indent : Option Nat) : NarrowOptions :=
  { projection := (projection.orElse fun _ => c.projection).getD .pick,
    print := { newLine := ((newLine.orElse fun _ => c.newLine).getD .lf).text,
               indentSize := (indent.orElse fun _ => c.indentSize).getD 4 } }

end ParamNarrow
