import ParamNarrow.Text.Offset
/-!
# Line map

A line starts at offset 0 and after every line break, where a line break is a line feed, a carriage
return not followed by a line feed, or the pair `CR LF` (counted once, the line starting after the
line feed). An offset maps to the last line that starts at or before it (after clamping the offset
to the text), and to the number of characters between that line's start and the offset. An offset
inside a multi-byte character has no character count of its own and maps to column 0.
-/

namespace ParamNarrow.Text

/-- A zero-based line and a zero-based column counted in characters. -/
structure Position where
  line : Nat
  character : Nat
deriving Repr, DecidableEq

/-- The start offsets of the lines of a text, in increasing order; the first is 0. -/
structure LineMap where
  starts : List Nat
deriving Repr

/-- The starts of the lines after the first, for the characters `cs` found at offset `off`. -/
def lineStartsFrom : List Char → Nat → List Nat
  | [], _ => []
  | '\r' :: '\n' :: rest, off => (off + 2) :: lineStartsFrom rest (off + 2)
  | '\n' :: rest, off => (off + 1) :: lineStartsFrom rest (off + 1)
  | '\r' :: rest, off => (off + 1) :: lineStartsFrom rest (off + 1)
  | c :: rest, off => lineStartsFrom rest (off + c.utf8Size)

/-- The line map of `text`. -/
def LineMap.build (text : String) : LineMap :=
  ⟨0 :: lineStartsFrom text.toList 0⟩

/-- The number of lines. -/
def LineMap.lineCount (m : LineMap) : Nat :=
  m.starts.length

/-- The index of the last line starting at or before `offset`. -/
def LineMap.lineOf (m : LineMap) (offset : Nat) : Nat :=
  (m.starts.filter (· ≤ offset)).length - 1

/-- The line and column of `offset` in `text`, whose map is `m`. -/
def LineMap.position (m : LineMap) (text : String) (offset : Nat) : Position :=
  let line := m.lineOf offset
  let clamped := min offset text.utf8ByteSize
  let start := min (m.starts.getD line 0) clamped
  { line, character := ((slice? text start clamped).map String.length).getD 0 }

end ParamNarrow.Text
