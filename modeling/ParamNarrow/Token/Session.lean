import ParamNarrow.Token.Scanner
/-!
# Scanning sessions

A session drives a scanner through a list of steps and records the current token after each: read a
token, skip the shebang, one of the three rescans, or save and restore snapshots on a stack. Reading
a whole text is the session that skips the shebang and then reads tokens up to and including the end
of the file.
-/

namespace ParamNarrow

/-- What a session records of the current token. -/
structure TokenView where
  kind : TokenKind
  fullStart : Nat
  pos : Nat
  stop : Nat
  value : String
  text : String
  lineBreak : Bool
deriving Repr

/-- One step of a scanning session. -/
inductive ScanStep where
  | scan
  | shebang
  | greater
  | slash
  | template
  | save
  | restore
deriving Repr, DecidableEq

namespace Scanner

/-- The current token as a session records it. -/
def view (s : Scanner) : TokenView :=
  { kind := s.token, fullStart := s.fullStart, pos := s.tokenStart, stop := s.pos,
    value := s.value, text := s.tokenText, lineBreak := s.lineBreakBefore }

/-- Read tokens until the end of the file, which is included, or until `limit` tokens. -/
def readTokens (s : Scanner) : Nat → List TokenView × Scanner
  | 0 => ([], s)
  | n + 1 =>
    let s := s.scan
    if s.token == .endOfFileToken then ([s.view], s)
    else
      let (rest, s') := readTokens s n
      (s.view :: rest, s')

/-- Skip the shebang of `text`, then read at most `limit` tokens up to the end of the file. -/
def tokenize (text : String) (limit : Nat) : List TokenView × Scanner :=
  (Scanner.new text).skipShebang.readTokens limit

/-- Run `steps` from `s` with the snapshot stack `saved`, recording the token after each step;
none when a step restores with an empty stack. -/
def runSteps : List ScanStep → Scanner → List Scanner → Option (List TokenView × Scanner)
  | [], s, _ => some ([], s)
  | step :: rest, s, saved =>
    let next : Option (Scanner × List Scanner) := match step with
      | .scan => some (s.scan, saved)
      | .shebang => some (s.skipShebang, saved)
      | .greater => some (s.rescanGreater, saved)
      | .slash => some (s.rescanSlash, saved)
      | .template => some (s.rescanTemplate, saved)
      | .save => some (s, s :: saved)
      | .restore => match saved with
        | [] => none
        | snapshot :: older => some (s.restore snapshot, older)
    next.bind fun (s', saved') =>
      (runSteps rest s' saved').map fun (views, final) => (s'.view :: views, final)

end Scanner

end ParamNarrow
