import ParamNarrow.Cli.Run
/-!
# A working directory in memory

A `Workspace` is a directory of text files, each named by its path relative to the directory. It
gives a run its `FileView`: a path under the directory names a file, a directory (a proper prefix of
a file's path), or nothing. Paths resolve the way the operating system resolves them: empty and `.`
components are skipped, `..` goes up from a directory, and a component after a file names nothing.
Outside the directory only the directories above it are known.
-/

namespace ParamNarrow

/-- Text files by path relative to the directory. -/
structure Workspace where
  files : List (String × String)
deriving Inhabited

/-- The components of a relative path, without empty and `.` ones. -/
def pathComponents (path : String) : List String :=
  (path.splitOn "/").filter fun c => c != "" && c != "."

namespace Workspace

/-- The entry at a list of components below the directory. -/
def entryAt (w : Workspace) (cs : List String) : Entry :=
  match w.files.find? (fun f => pathComponents f.1 == cs) with
  | some (_, content) => .file content
  | none =>
    if cs.isEmpty || w.files.any (fun f =>
        let ks := pathComponents f.1
        cs.isPrefixOf ks && ks != cs) then .directory
    else .missing

/-- Where a path resolution stands: below the directory, `depth` levels above it, or nowhere. -/
inductive Walk where
  | inside (cs : List String) (entry : Entry)
  | above (depth : Nat)
  | nowhere
deriving Inhabited

/-- Resolve one more component. -/
def walkStep (w : Workspace) : Walk → String → Walk
  | .nowhere, _ => .nowhere
  | .inside cs .directory, c =>
    if c == "" || c == "." then .inside cs .directory
    else if c == ".." then
      match cs with
      | [] => .above 1
      | _ => .inside cs.dropLast .directory
    else
      let cs := cs ++ [c]
      match w.entryAt cs with
      | .missing => .nowhere
      | e => .inside cs e
  | .inside _ _, _ => .nowhere
  | .above d, c =>
    if c == "" || c == "." then .above d
    else if c == ".." then .above (d + 1)
    else .nowhere

/-- Resolve the path `rel` relative to the directory. -/
def walk (w : Workspace) (rel : String) : Walk :=
  (rel.splitOn "/").foldl w.walkStep (.inside [] .directory)

/-- The entry at the path `rel` relative to the directory. -/
def entryOf (w : Workspace) (rel : String) : Entry :=
  match w.walk rel with
  | .inside _ e => e
  | .above _ => .directory
  | .nowhere => .missing

/-- The view of the directory when its path is `root`. -/
def view (w : Workspace) (root : String) : FileView := fun path =>
  if path == root then .directory
  else if path.startsWith (root ++ "/") then w.entryOf (String.ofList (path.toList.drop (root.length + 1)))
  else if path.startsWith "/" then
    if (pathComponents path).isEmpty then .directory else .missing
  else .missing

/-- The workspace after writing `content` to the file at `path`, for the directory at `root`. -/
def write (w : Workspace) (root path content : String) : Workspace :=
  if path.startsWith (root ++ "/") then
    match w.walk (String.ofList (path.toList.drop (root.length + 1))) with
    | .inside target (.file _) =>
      { files := w.files.map fun f => if pathComponents f.1 == target then (f.1, content) else f }
    | _ => w
  else w

end Workspace

end ParamNarrow
