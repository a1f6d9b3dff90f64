import ParamNarrow.Cli.Run
/-!
# The command

`main` reads the arguments, looks at the paths the run may read, runs it, writes the file when the
run says so, and prints what it returns.
-/

open ParamNarrow

/-- The usage text. -/
def usage : String :=
  "Narrow TypeScript parameter types to the fields a function reads\n\n" ++
  "Usage: tsprune [OPTIONS] --function <NAME> <FILE>\n\n" ++
  "Arguments:\n  <FILE>  TypeScript file containing the function\n\n" ++
  "Options:\n" ++
  "  -f, --function <NAME>      Name of the top-level function whose parameters are narrowed\n" ++
  "      --projection <PROJECTION>  How synthesized types spell their projection [possible values: pick, literal]\n" ++
  "      --new-line <NEW_LINE>  Line terminator of the printed file [possible values: lf, crlf]\n" ++
  "      --indent <N>           Indentation width of the printed file\n" ++
  "  -w, --write                Overwrite FILE instead of printing the result to stdout\n" ++
  "      --report               Print the JSON report to stdout instead of the transformed text\n" ++
  "  -c, --config <PATH>        Path to tsprune.json, or a directory containing it\n" ++
  "  -h, --help                 Print help\n" ++
  "  -V, --version              Print version"

/-- What a path of the file system names. -/
def readEntry (path : String) : IO Entry := do
  if ← (System.mkFilePath [path]).isDir then return .directory
  try
    return .file (← IO.FS.readFile path)
  catch _ =>
    return .missing

def main (argv : List String) : IO UInt32 := do
  match parseArgs argv with
  | .error .displayHelp => IO.println usage; return 0
  | .error .displayVersion => IO.println "tsprune 0.1.0"; return 0
  | .error e => IO.eprintln ("error: " ++ e.name ++ "\n\n" ++ usage); return 2
  | .ok args =>
    let cwd := (← IO.currentDir).toString
    let entries ← (pathsRead args cwd).mapM fun p => do return (p, ← readEntry p)
    let view : FileView := fun p => ((entries.find? (·.1 == p)).map (·.2)).getD .missing
    match runCli args cwd view with
    | .error message => IO.eprintln ("Error: " ++ message); return 1
    | .ok outcome =>
      match outcome with
      | .narrowed _ (some (path, text)) => IO.FS.writeFile path text
      | _ => pure ()
      let out := outcome.output args
      IO.print out.stdout
      IO.eprint out.stderr
      return out.exitCode.toUInt32
