import ParamNarrow.Syntax.Node
/-!
# Printed output as pieces

The printer lays a tree out as a list of `Piece`s, and `Output.run` writes them. Most pieces are
plain output: text, a line break, one level more or less of indentation. The others carry the
comments of the source over: the output keeps an offset below which every comment counts as
written, and a piece asks for the comments before an offset, or those that follow a node on its
line.

Text is indented when it is the first on its line; empty text writes nothing, not even the
indentation. A comment before an offset goes on a line of its own, and is followed by a line break
when it is a line comment or ended its line in the source, by a space otherwise. A comment after a
node stays on the node's line when only blanks, tabs, `;` and `,` stand between them in the source;
a line comment ends that run.
-/

namespace ParamNarrow

/-- Options of the printed text: the line break and the spaces per level of indentation. -/
structure PrintOptions where
  newLine : String := "\n"
  indentSize : Nat := 4
deriving Repr, DecidableEq, Inhabited

/-- A piece of printed output. -/
inductive Piece where
  /-- Text without line breaks; empty text writes nothing. -/
  | text (s : String)
  | newline
  | indent
  | dedent
  /-- Text that takes no column, such as a byte order mark. -/
  | zeroWidth (s : String)
  /-- The comments not yet written that end at or before `pos`. -/
  | commentsBefore (pos : Nat)
  /-- The comments before a node, if it comes from the source. -/
  | leading (span : Span)
  /-- The comments after a node on its line, if it comes from the source. -/
  | trailing (span : Span)
  /-- Count the comments before `pos` as written. -/
  | skipCommentsTo (pos : Nat)
  /-- The braces of an empty block whose body ends at `stop`: `{ }`, or the comments left in the
  body on lines of their own between braces. -/
  | emptyBody (stop : Nat)
deriving Repr, DecidableEq, Inhabited

/-- The comments of `cs` that start at or after `start` and end at or before `stop`. The list is
sorted, so these form one run. -/
def commentsInRange (cs : List Comment) (start stop : Nat) : List Comment :=
  let first := (cs.takeWhile (·.pos < start)).length
  let last := (cs.takeWhile (·.stop ≤ stop)).length
  (cs.take last).drop first

/-- The state of the printer: the text written so far and what it needs to go on. -/
structure Output where
  options : PrintOptions
  /-- The source text; empty when a node is printed apart from its file. -/
  source : String
  comments : List Comment
  out : String := ""
  level : Nat := 0
  atLineStart : Bool := true
  /-- Comments that start before this offset are written or belong to a printed node. -/
  commentPos : Nat := 0

namespace Output

/-- The spaces before the first text of a line: the level times the spaces per level, multiplied
as numbers of 32 bits, so that a product past `2^32 - 1` wraps around. -/
def indentWidth (o : Output) : Nat :=
  (UInt32.ofNat o.level * UInt32.ofNat o.options.indentSize).toNat

/-- Write text, indented if it is the first on its line. -/
def write (o : Output) (s : String) : Output :=
  if s.isEmpty then o
  else
    let o := if o.atLineStart then
        { o with out := o.out ++ String.ofList (List.replicate o.indentWidth ' '),
                 atLineStart := false }
      else o
    { o with out := o.out ++ s }

def newline (o : Output) : Output :=
  { o with out := o.out ++ o.options.newLine, atLineStart := true }

/-- Start a new line unless the current one is still empty. -/
def ensureLineStart (o : Output) : Output :=
  if o.atLineStart then o else o.newline

/-- The source text of a comment. -/
def commentText (o : Output) (c : Comment) : String :=
  Text.sliceOr o.source c.pos c.stop

/-- Write one comment on a line of its own, with what follows it. -/
def writeComment (o : Output) (c : Comment) : Output :=
  let o := (o.ensureLineStart).write (o.commentText c)
  if !c.multiLine || c.trailingNewLine then o.newline else o.write " "

/-- Write the comments not yet written that end at or before `pos`. -/
def commentsBefore (o : Output) (pos : Nat) : Output :=
  if pos ≤ o.commentPos then o
  else
    let o := (commentsInRange o.comments o.commentPos pos).foldl writeComment o
    { o with commentPos := pos }

/-- Whether only blanks, tabs, `;` and `,` stand in the source between `start` and `stop`. -/
def sameLineGap (o : Output) (start stop : Nat) : Bool :=
  match Text.slice? o.source start stop with
  | some gap => gap.toList.all fun c => c == ' ' || c == '\t' || c == ';' || c == ','
  | none => false

/-- Write the comments that follow on the line of a node ending at `stop`, each after a space;
a line comment is the last. -/
def trailingFrom (o : Output) (stop : Nat) : List Comment → Output
  | [] => o
  | c :: rest =>
    if !o.sameLineGap stop c.pos then o
    else
      let o := { (o.write " ").write (o.commentText c) with commentPos := c.stop }
      if c.multiLine then trailingFrom o c.stop rest else o

/-- The comments after a node on its line. -/
def trailing (o : Output) (span : Span) : Output :=
  if !span.isSource || span.stop < o.commentPos then o
  else
    let o := { o with commentPos := max o.commentPos span.stop }
    trailingFrom o span.stop (o.comments.dropWhile (·.pos < span.stop))

/-- Whether comments not yet written end at or before `pos`. -/
def pendingBefore (o : Output) (pos : Nat) : Bool :=
  o.commentPos < pos && !(commentsInRange o.comments o.commentPos pos).isEmpty

/-- Write one piece. -/
def step (o : Output) : Piece → Output
  | .text s => o.write s
  | .newline => o.newline
  | .indent => { o with level := o.level + 1 }
  | .dedent => { o with level := o.level - 1 }
  | .zeroWidth s => { o with out := o.out ++ s }
  | .commentsBefore pos => o.commentsBefore pos
  | .leading span => if span.isSource then o.commentsBefore span.pos else o
  | .trailing span => o.trailing span
  | .skipCommentsTo pos => { o with commentPos := max o.commentPos pos }
  | .emptyBody stop =>
    if o.pendingBefore stop then
      let o := { (o.write "\x7b").newline with level := o.level + 1 }
      let o := o.commentsBefore stop
      { o with level := o.level - 1 }.write "\x7d"
    else o.write "\x7b \x7d"

/-- Write the pieces in order. -/
def run (o : Output) (pieces : List Piece) : Output :=
  pieces.foldl step o

end Output

end ParamNarrow
