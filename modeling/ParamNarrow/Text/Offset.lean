/-!
# Byte offsets into text

Positions in source text are UTF-8 byte offsets. This module gives the views that the scanner, the
line map and the printer take of a text at such offsets: the byte and the character that start at
an offset, and the slice between two offsets, which exists only when both offsets are character
boundaries inside the text.
-/

namespace ParamNarrow.Text

/-- The byte at offset `pos`, if `pos` is inside the text. -/
def byteAt? (text : String) (pos : Nat) : Option UInt8 :=
  if h : pos < text.utf8ByteSize then
    some (text.getUTF8Byte ⟨pos⟩ (by simpa [String.Pos.Raw.lt_iff] using h))
  else none

/-- Whether the byte at offset `pos` is the ASCII character `c`. -/
def byteIs (text : String) (pos : Nat) (c : Char) : Bool :=
  byteAt? text pos == some c.toUInt8

/-- The character that starts at offset `pos`, if `pos` is a character boundary before the end. -/
def charAt? (text : String) (pos : Nat) : Option Char :=
  (text.pos? ⟨pos⟩).bind (·.get?)

/-- The slice `[start, stop)`, when `start ≤ stop ≤ size` and both offsets are character
boundaries. -/
def slice? (text : String) (start stop : Nat) : Option String :=
  if start ≤ stop then
    match text.pos? ⟨start⟩, text.pos? ⟨stop⟩ with
    | some b, some e => some (text.extract b e)
    | _, _ => none
  else none

/-- The slice `[start, stop)`, or the empty text where `slice?` has none. -/
def sliceOr (text : String) (start stop : Nat) : String :=
  (slice? text start stop).getD ""

/-- Whether `start ≤ stop ≤ size` and every byte in `[start, stop)` satisfies `p`. -/
def bytesAll (text : String) (start stop : Nat) (p : UInt8 → Bool) : Bool :=
  start ≤ stop && stop ≤ text.utf8ByteSize &&
    (List.range (stop - start)).all fun k => (byteAt? text (start + k)).any p

/-- Whether `start ≤ stop ≤ size` and some byte in `[start, stop)` satisfies `p`. -/
def bytesAny (text : String) (start stop : Nat) (p : UInt8 → Bool) : Bool :=
  start ≤ stop && stop ≤ text.utf8ByteSize &&
    (List.range (stop - start)).any fun k => (byteAt? text (start + k)).any p

/-- The offset of the first byte at or after `pos` that satisfies `p`, or the size of the text. -/
def findByteFrom (text : String) (pos : Nat) (p : UInt8 → Bool) : Nat :=
  ((List.range (text.utf8ByteSize - pos)).find? fun k => (byteAt? text (pos + k)).any p).elim
    text.utf8ByteSize (pos + ·)

/-- Whether `b` is one of the line feed or carriage return bytes. -/
def isNewlineByte (b : UInt8) : Bool :=
  b == 10 || b == 13

end ParamNarrow.Text
