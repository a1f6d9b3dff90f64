import ParamNarrow.Cli.Config
/-!
# Command-line arguments

`tsprune FILE -f NAME [--projection pick|literal] [--new-line lf|crlf] [--indent N] [-w] [--report]
[-c PATH]`, with `--newLine` for `--new-line`, `-h`/`--help` and `-V`/`--version`.

The arguments are read left to right. An option's value is attached (`--indent=2`, `-f=name`,
`-fname`) or is the next argument; an argument that looks like a flag is never taken as a value, so
`--indent -1` names the unknown flag `-1`. Short flags cluster (`-wf name`). After `--` every
argument is positional. Each argument may be given once.

A value is checked when the next argument starts or at the end, so a problem with a value is
reported only if no unknown argument comes first. Values of `--projection` and `--new-line` are
matched without regard to ASCII case; `--indent` takes a decimal integer from 0 to 16, with an
optional sign; a path may not be empty.
-/

namespace ParamNarrow

/-- The parsed command line. -/
structure CliArgs where
  /-- The TypeScript file, as given. -/
  file : String
  /-- The function whose parameters are narrowed. -/
  function : String
  projection : Option ProjectionStyle := none
  newLine : Option LineEnding := none
  indent : Option Nat := none
  /-- Overwrite the file instead of printing the result. -/
  write : Bool := false
  /-- Print the JSON report instead of the text. -/
  report : Bool := false
  /-- The configuration file, or a directory holding `tsprune.json`. -/
  config : Option String := none
deriving Repr, DecidableEq, Inhabited

/-- Why a command line is refused, or what it asks for instead of a run. -/
inductive ArgError where
  | missingRequiredArgument
  | unknownArgument
  | invalidValue
  | valueValidation
  | argumentConflict
  | tooManyValues
  | displayHelp
  | displayVersion
deriving Repr, DecidableEq, Inhabited

/-- The name of a kind of refusal. -/
def ArgError.name : ArgError → String
  | .missingRequiredArgument => "MissingRequiredArgument"
  | .unknownArgument => "UnknownArgument"
  | .invalidValue => "InvalidValue"
  | .valueValidation => "ValueValidation"
  | .argumentConflict => "ArgumentConflict"
  | .tooManyValues => "TooManyValues"
  | .displayHelp => "DisplayHelp"
  | .displayVersion => "DisplayVersion"

namespace CommandLine

/-- The arguments of the command. -/
inductive Arg where
  | file
  | function
  | projection
  | newLine
  | indent
  | write
  | report
  | config
  | help
  | version
deriving Repr, DecidableEq, Inhabited

/-- Whether an argument takes a value. -/
def Arg.takesValue : Arg → Bool
  | .write | .report | .help | .version => false
  | _ => true

/-- The argument of a long flag. -/
def longArg? (name : String) : Option Arg :=
  if name == "function" then some .function
  else if name == "projection" then some .projection
  else if name == "new-line" || name == "newLine" then some .newLine
  else if name == "indent" then some .indent
  else if name == "write" then some .write
  else if name == "report" then some .report
  else if name == "config" then some .config
  else if name == "help" then some .help
  else if name == "version" then some .version
  else none

/-- The argument of a short flag. -/
def shortArg? (c : Char) : Option Arg :=
  if c == 'f' then some .function
  else if c == 'w' then some .write
  else if c == 'c' then some .config
  else if c == 'h' then some .help
  else if c == 'V' then some .version
  else none

/-- Whether two strings are equal up to ASCII case. -/
def equalsIgnoringCase (a b : String) : Bool :=
  a.length == b.length && (a.toList.zip b.toList).all fun (x, y) => x.toLower == y.toLower

/-- A signed 64-bit decimal integer: an optional sign, then at least one digit. -/
def parseInteger (s : String) : Option Int :=
  let (negative, digits) := match s.toList with
    | '-' :: rest => (true, rest)
    | '+' :: rest => (false, rest)
    | cs => (false, cs)
  if digits.isEmpty || !digits.all Char.isDigit then none
  else
    let n := digits.foldl (fun acc c => acc * 10 + (c.toNat - '0'.toNat)) 0
    let v : Int := if negative then -n else n
    if v < -9223372036854775808 || 9223372036854775808 ≤ v then none else some v

/-- The command line read so far. -/
structure Matched where
  file : Option String := none
  function : Option String := none
  projection : Option ProjectionStyle := none
  newLine : Option LineEnding := none
  indent : Option Nat := none
  write : Bool := false
  report : Bool := false
  config : Option String := none
deriving Inhabited

/-- Whether an argument was given. -/
def Matched.has (m : Matched) : Arg → Bool
  | .file => m.file.isSome
  | .function => m.function.isSome
  | .projection => m.projection.isSome
  | .newLine => m.newLine.isSome
  | .indent => m.indent.isSome
  | .write => m.write
  | .report => m.report
  | .config => m.config.isSome
  | .help | .version => false

/-- Record one value of an argument, checking it. -/
def Matched.set (m : Matched) (arg : Arg) (value : String) : Except ArgError Matched :=
  match arg with
  | .file => if value.isEmpty then .error .invalidValue else pure { m with file := some value }
  | .function => pure { m with function := some value }
  | .config => if value.isEmpty then .error .invalidValue else pure { m with config := some value }
  | .projection =>
    if equalsIgnoringCase value "pick" then pure { m with projection := some .pick }
    else if equalsIgnoringCase value "literal" then pure { m with projection := some .literal }
    else .error .invalidValue
  | .newLine =>
    if equalsIgnoringCase value "lf" then pure { m with newLine := some .lf }
    else if equalsIgnoringCase value "crlf" then pure { m with newLine := some .crlf }
    else .error .invalidValue
  | .indent =>
    match parseInteger value with
    | some v => if 0 ≤ v ∧ v ≤ 16 then pure { m with indent := some v.toNat }
      else .error .valueValidation
    | none => .error .valueValidation
  | .write => pure { m with write := true }
  | .report => pure { m with report := true }
  | .help | .version => pure m

/-- The state of the reading: what was matched, the argument whose values are still to be
checked, and whether an option waits for its value. -/
structure State where
  matched : Matched := {}
  pending : Option (Arg × List String) := none
  awaiting : Option Arg := none
  positionals : Nat := 0
  trailing : Bool := false
deriving Inhabited

/-- Take an occurrence of an argument with its values: help and version stop the reading, a
repeated argument is refused, an option without its value is refused, and a value is checked. -/
def react (m : Matched) (arg : Arg) (values : List String) : Except ArgError Matched :=
  if arg.takesValue && values.isEmpty then .error .invalidValue
  else
    match arg with
    | .help => .error .displayHelp
    | .version => .error .displayVersion
    | _ =>
      if m.has arg then .error .argumentConflict
      else
        match values with
        | [] => m.set arg "true"
        | v :: _ => m.set arg v

/-- Check the pending argument, if any. -/
def resolve (s : State) : Except ArgError State :=
  match s.pending with
  | none => pure s
  | some (arg, values) => do
    let matched ← react s.matched arg values
    pure { s with matched, pending := none }

/-- An occurrence of an argument: the pending one is checked first. -/
def occur (s : State) (arg : Arg) (values : List String) : Except ArgError State := do
  let s ← resolve s
  let matched ← react s.matched arg values
  pure { s with matched, awaiting := none }

/-- An option whose value, attached or not, comes with it or next. -/
def option (s : State) (arg : Arg) (attached : Option String) : Except ArgError State :=
  match attached with
  | some v => occur s arg [v]
  | none => do
    let s ← resolve s
    pure { s with pending := some (arg, []), awaiting := some arg }

/-- A long flag `--name` or `--name=value`. -/
def long (s : State) (body : String) : Except ArgError State :=
  let (name, value) := match body.splitOn "=" with
    | [n] => (n, none)
    | n :: rest => (n, some ("=".intercalate rest))
    | [] => (body, none)
  match longArg? name with
  | none => .error .unknownArgument
  | some arg =>
    if arg.takesValue then option s arg value
    else if value.isSome then .error .tooManyValues
    else occur s arg []

/-- A cluster of short flags after its dash: flags without values, then possibly one option that
takes the rest of the cluster, without a leading `=`, as its value. -/
def shorts (s : State) : List Char → Except ArgError State
  | [] => pure s
  | c :: rest =>
    match shortArg? c with
    | none => .error .unknownArgument
    | some arg =>
      if arg.takesValue then
        let value := match rest with
          | [] => none
          | '=' :: v => some (String.ofList v)
          | v => some (String.ofList v)
        option s arg value
      else do
        let s ← occur s arg []
        shorts s rest

/-- A positional argument: the file, once. -/
def positional (s : State) (value : String) : Except ArgError State :=
  if s.positionals == 0 then do
    let s ← resolve s
    pure { s with pending := some (.file, [value]), awaiting := none, positionals := 1 }
  else .error .unknownArgument

/-- Read one argument. -/
def step (s : State) (a : String) : Except ArgError State :=
  if s.trailing then positional s a
  else if a == "--" then pure { s with trailing := true }
  else if a.startsWith "--" then long s (String.ofList (a.toList.drop 2))
  else if a.startsWith "-" && a != "-" then shorts s (a.toList.drop 1)
  else
    match s.awaiting, s.pending with
    | some arg, some (p, values) =>
      if arg == p then pure { s with pending := some (p, values ++ [a]), awaiting := none }
      else positional s a
    | _, _ => positional s a

end CommandLine

/-- Read the arguments after the program name. -/
def parseArgs (args : List String) : Except ArgError CliArgs := do
  let s ← args.foldlM CommandLine.step {}
  let s ← CommandLine.resolve s
  let m := s.matched
  match m.file, m.function with
  | some file, some function =>
    pure { file, function, projection := m.projection, newLine := m.newLine, indent := m.indent,
           write := m.write, report := m.report, config := m.config }
  | _, _ => .error .missingRequiredArgument

end ParamNarrow
