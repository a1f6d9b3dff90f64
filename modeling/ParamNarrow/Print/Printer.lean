import ParamNarrow.Print.Layout
/-!
# Printing files and nodes

A file prints as its byte order mark and `#!` line, kept as they are, then its statements with
the comments around them, then the comments left after the last statement. A node printed apart
from its file has no source text and no comments, so its object types stay on one line.
-/

namespace ParamNarrow

/-- The pieces for the start of a file: a byte order mark, written without a column, and a `#!`
line, written without its trailing carriage returns. The comments they cover count as written. -/
def shebangLayout (text : String) : List Piece :=
  let bom := text.startsWith "\uFEFF"
  let start := if bom then 3 else 0
  let head := if bom then [.zeroWidth "\uFEFF", .skipCommentsTo 3] else []
  if Text.byteIs text start '#' && Text.byteIs text (start + 1) '!' then
    let lineEnd := Text.findByteFrom text 0 (· == 10)
    let line := String.ofList ((Text.sliceOr text start lineEnd).toList.reverse.dropWhile
      (· == '\r')).reverse
    head ++ [.text line, .newline, .skipCommentsTo lineEnd]
  else head

/-- The pieces of a file. -/
def SourceFile.layout (f : SourceFile) : List Piece :=
  shebangLayout f.text ++ Node.layoutStatements f.text f.statements
    ++ [.commentsBefore f.text.utf8ByteSize]

/-- The printed text of a file. -/
def SourceFile.print (options : PrintOptions) (f : SourceFile) : String :=
  (Output.run { options, source := f.text, comments := f.comments.toList } f.layout).out

/-- The printed text of a node apart from its file. -/
def Node.print (options : PrintOptions) (n : Node) : String :=
  (Output.run { options, source := "", comments := [] } (n.layout "")).out

end ParamNarrow
