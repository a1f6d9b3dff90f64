import ParamNarrow.Cli.Args
import ParamNarrow.Cli.Report
import ParamNarrow.Diagnostic.Render
/-!
# One run of the command

The options come from the defaults, overridden by the configuration file, overridden by the flags.
The configuration file is the one `-c` names (a file, or a directory holding `tsprune.json`), else
`tsprune.json` in the working directory if there is one. The file is read and narrowed; with
`--write` it is overwritten when the text changed.

A run sees the file system through a `FileView`, which tells what a path names, and returns what it
would write, so that it stays a function of its inputs. Paths are the working directory joined
with the paths of the command line, as they are shown in messages.
-/

namespace ParamNarrow

/-- What a path names. -/
inductive Entry where
  | file (content : String)
  | directory
  | missing
deriving Repr, DecidableEq, Inhabited

/-- What a run can see of the file system: the entry at a path. -/
abbrev FileView := String → Entry

/-- `base` joined with `path`; an absolute path stands for itself. -/
def joinPath (base path : String) : String :=
  if path.startsWith "/" then path
  else if base.endsWith "/" then base ++ path
  else base ++ "/" ++ path

/-- The name of the configuration file. -/
def configFileName : String :=
  "tsprune.json"

/-- The configuration file to use, if any: the path `-c` gives, relative to `cwd`, or
`tsprune.json` in `cwd`. -/
def configPath (view : FileView) (cwd : String) : Option String → Except String (Option String)
  | none =>
    let candidate := joinPath cwd configFileName
    match view candidate with
    | .file _ => pure (some candidate)
    | _ => pure none
  | some explicit =>
    let candidate := joinPath cwd explicit
    let candidate := match view candidate with
      | .directory => joinPath candidate configFileName
      | _ => candidate
    match view candidate with
    | .missing => throw ("config not found at " ++ candidate)
    | .directory => throw ("config path is not a file: " ++ candidate)
    | .file _ => pure (some candidate)

/-- The configuration of a run. -/
def loadConfig (view : FileView) (cwd : String) (explicit : Option String) : Except String Config := do
  match ← configPath view cwd explicit with
  | none => pure {}
  | some path =>
    match view path with
    | .file text =>
      match parseConfig text with
      | .ok c => pure c
      | .error _ => throw ("invalid config: " ++ path)
    | _ => throw ("failed to read config: " ++ path)

/-- Every path a run may look at: the configuration candidates and the input file. -/
def pathsRead (args : CliArgs) (cwd : String) : List String :=
  [joinPath cwd configFileName, joinPath cwd args.file] ++
    match args.config with
    | some explicit => [joinPath cwd explicit, joinPath (joinPath cwd explicit) configFileName]
    | none => []

/-- How a run ends. -/
inductive Outcome where
  /-- The file parsed; `written` is the path and text it is overwritten with, if it is. -/
  | narrowed (report : NarrowReport) (written : Option (String × String))
  /-- The file did not parse; nothing was changed. -/
  | syntaxErrors (source : String) (diagnostics : List Diagnostic)
deriving Inhabited

/-- Run the command in `cwd`; an error is the message of what could not be done. -/
def runCli (args : CliArgs) (cwd : String) (view : FileView) : Except String Outcome := do
  let config ← loadConfig view cwd args.config
  let options := config.options args.projection args.newLine args.indent
  let path := joinPath cwd args.file
  let source ← match view path with
    | .file text => pure text
    | _ => throw ("failed to read " ++ path)
  match narrowSource args.function args.file source options with
  | .error failure => pure (.syntaxErrors source failure.diagnostics)
  | .ok report =>
    let written := if args.write && report.text != source then some (path, report.text) else none
    pure (.narrowed report written)

/-- What a run prints, and its exit code. -/
structure CliOutput where
  exitCode : Nat
  stdout : String
  stderr : String
deriving Repr, DecidableEq, Inhabited

/-- The output of a run: the diagnostics when the file did not parse; otherwise the report or the
text (nothing when the file is overwritten), and the summary. -/
def Outcome.output (args : CliArgs) : Outcome → CliOutput
  | .syntaxErrors source diagnostics =>
    { exitCode := 1, stdout := "", stderr := renderDiagnostics source diagnostics ++ "\n" }
  | .narrowed report written =>
    { exitCode := 0,
      stdout := if args.report then report.prettyJson ++ "\n"
        else if args.write then "" else report.text,
      stderr := report.summary ++ "\n"
        ++ (if written.isSome then "wrote " ++ args.file ++ "\n" else "") }

end ParamNarrow
