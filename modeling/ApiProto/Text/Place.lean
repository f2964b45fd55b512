/-
  Places in a text: byte counts, positions of line and column, and one-character spans.

  Lines and columns count as readers of bytes count them: after `n` bytes the line is one more
  than the newlines among them, and the column is the number of bytes after the last of these.
  `spanAt` goes the other way, from a position to the character that a report underlines.
-/

namespace ApiProto.Text

/-- The number of bytes of a text in UTF-8. -/
def byteLength : List Char → Nat
  | [] => 0
  | c :: rest => c.utf8Size + byteLength rest

/-! ## Positions -/

/-- A line, counted from one, and the number of its bytes that have been read. -/
structure Position where
  line : Nat
  column : Nat
  deriving DecidableEq, Repr

/-- The position before the first byte. -/
def Position.start : Position := ⟨1, 0⟩

/-- The position after reading at most `bytes` further bytes of the text. -/
def Position.advance (p : Position) : List Char → Nat → Position
  | [], _ => p
  | c :: rest, bytes =>
    if bytes = 0 then p
    else if c = '\n' then Position.advance ⟨p.line + 1, 0⟩ rest (bytes - 1)
    else Position.advance ⟨p.line, p.column + min bytes c.utf8Size⟩ rest (bytes - c.utf8Size)

/-- The position after the first `bytes` bytes of a text. -/
def positionAfter (s : List Char) (bytes : Nat) : Position := Position.start.advance s bytes

/-! ## Spans -/

/-- A stretch of a text, in bytes. -/
structure Span where
  offset : Nat
  length : Nat
  deriving DecidableEq, Repr

/-- The number of bytes of the first `lines` lines, their newlines included. -/
def linesLength : List Char → Nat → Nat
  | [], _ => 0
  | c :: rest, lines =>
    if lines = 0 then 0
    else c.utf8Size + linesLength rest (if c = '\n' then lines - 1 else lines)

/-- The start of the character that holds the byte at `offset`; the end of the text if there is
none. -/
def charStart : List Char → Nat → Nat
  | [], _ => 0
  | c :: rest, offset =>
    if offset < c.utf8Size then 0 else c.utf8Size + charStart rest (offset - c.utf8Size)

/-- The number of bytes of the character that starts at `offset`; zero at the end. -/
def charLength : List Char → Nat → Nat
  | [], _ => 0
  | c :: rest, offset =>
    if offset < c.utf8Size then c.utf8Size else charLength rest (offset - c.utf8Size)

/-- The character at a position, counted from column one.  At or beyond the end of the text it is
the last character. -/
def spanAt (s : List Char) (line column : Nat) : Span :=
  let wanted := charStart s (min (linesLength s (line - 1) + (column - 1)) (byteLength s))
  let offset := if wanted = byteLength s then charStart s (byteLength s - 1) else wanted
  ⟨offset, charLength s offset⟩

end ApiProto.Text
