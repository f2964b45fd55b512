/-
  The leaves of a JSON text: blanks, words, numbers and strings.

  A `Cursor` is what is left of the text and the number of bytes before it.  Each scanner takes a
  cursor to the one behind what it has read, or ends in a fault.  Numbers and strings come in two
  kinds: one that yields the value, and one for values that nobody asks for, which checks the
  spelling alone (`skipString` lets half of a surrogate pair pass, and `scanNumber` never looks at
  the size of a number).
-/
import ApiProto.Json.Fault

namespace ApiProto.Json

/-- A place in a text. -/
structure Cursor where
  rest : List Char
  offset : Nat
  deriving DecidableEq, Repr

namespace Cursor

/-- The start of a text. -/
def ofText (s : List Char) : Cursor := ⟨s, 0⟩

/-- A fault seen before the next byte is read. -/
def fail {α : Type} (c : Cursor) (cause : Cause) : Except Fault α := .error ⟨cause, c.offset⟩

/-- A fault of the next byte, if there is one. -/
def failNext {α : Type} (c : Cursor) (cause : Cause) : Except Fault α :=
  .error ⟨cause, if c.rest = [] then c.offset else c.offset + 1⟩

end Cursor

/-! ## Blanks and words -/

/-- Whether the character may stand between tokens. -/
def isSpace (c : Char) : Bool := c == ' ' || c == '\n' || c == '\t' || c == '\r'

/-- The place behind the blanks of a text whose first byte has the given offset. -/
def skipFrom : List Char → Nat → Cursor
  | [], offset => ⟨[], offset⟩
  | x :: rest, offset => if isSpace x then skipFrom rest (offset + 1) else ⟨x :: rest, offset⟩

/-- The place behind blanks. -/
def Cursor.skipBlanks (c : Cursor) : Cursor := skipFrom c.rest c.offset

/-- Reads the characters of a word. -/
def readWord : List Char → Cursor → Except Fault Cursor
  | [], c => .ok c
  | w :: ws, c =>
    match c.rest with
    | [] => c.fail .endInValue
    | x :: rest => if x = w then readWord ws ⟨rest, c.offset + 1⟩ else c.failNext .expectedWord

/-! ## Numbers -/

/-- The digits that come next, and the place behind them. -/
def takeDigits : List Char → Nat → List Char × Cursor
  | [], offset => ([], ⟨[], offset⟩)
  | x :: rest, offset =>
    if x.isDigit then
      let (ds, c) := takeDigits rest (offset + 1)
      (x :: ds, c)
    else ([], ⟨x :: rest, offset⟩)

/-- The digits before the point: a single zero, or digits that start with another one. -/
def scanWhole (atEnd : Cause) (c : Cursor) : Except Fault (List Char × Cursor) :=
  match c.rest with
  | [] => c.fail atEnd
  | x :: rest =>
    if x = '0' then
      let next : Cursor := ⟨rest, c.offset + 1⟩
      if rest.head?.any Char.isDigit then next.failNext .badNumber else .ok (['0'], next)
    else if x.isDigit then .ok (takeDigits c.rest c.offset)
    else c.failNext .badNumber

/-- The digits after the point, if there is one. -/
def scanFraction (atEnd : Cause) (c : Cursor) : Except Fault (Option (List Char) × Cursor) :=
  match c.rest with
  | '.' :: rest =>
    let (ds, next) := takeDigits rest (c.offset + 1)
    if ds = [] then next.failNext (if next.rest = [] then atEnd else .badNumber)
    else .ok (some ds, next)
  | _ => .ok (none, c)

/-- The sign of an exponent: whether it is a minus. -/
def scanSign (c : Cursor) : Bool × Cursor :=
  match c.rest with
  | '-' :: rest => (true, ⟨rest, c.offset + 1⟩)
  | '+' :: rest => (false, ⟨rest, c.offset + 1⟩)
  | _ => (false, c)

/-- The exponent, if there is one. -/
def scanExponent (atEnd : Cause) (c : Cursor) : Except Fault (Option (Bool × List Char) × Cursor) :=
  match c.rest with
  | x :: rest =>
    if x = 'e' ∨ x = 'E' then
      let (down, c) := scanSign ⟨rest, c.offset + 1⟩
      match c.rest with
      | [] => c.fail atEnd
      | d :: _ =>
        if d.isDigit then
          let (ds, next) := takeDigits c.rest c.offset
          .ok (some (down, ds), next)
        else c.failNext .badNumber
    else .ok (none, c)
  | [] => .ok (none, c)

/-- A number as it is spelled; `atEnd` is the fault of a text that ends too early. -/
def scanNumber (atEnd : Cause) (c : Cursor) : Except Fault (NumberText × Cursor) := do
  let (negative, c) : Bool × Cursor := match c.rest with
    | '-' :: rest => (true, ⟨rest, c.offset + 1⟩)
    | _ => (false, c)
  let (whole, c) ← scanWhole atEnd c
  let (fraction, c) ← scanFraction atEnd c
  let (exponent, c) ← scanExponent atEnd c
  .ok (⟨negative, whole, fraction, exponent⟩, c)

/-- Reads a number. -/
def readNumber (c : Cursor) : Except Fault (Number × Cursor) := do
  let (t, c) ← scanNumber .endInValue c
  match t.value with
  | .value n => .ok (n, c)
  | .outOfRange unread => .error ⟨.numberOutOfRange, c.offset - unread⟩

/-! ## Strings -/

/-- The value of a hexadecimal digit. -/
def hexValue? (c : Char) : Option Nat :=
  if c.isDigit then some (c.toNat - '0'.toNat)
  else if 'a' ≤ c ∧ c ≤ 'f' then some (c.toNat - 'a'.toNat + 10)
  else if 'A' ≤ c ∧ c ≤ 'F' then some (c.toNat - 'A'.toNat + 10)
  else none

/-- Reads four bytes as hexadecimal digits. -/
def readHex (c : Cursor) : Except Fault (Nat × Cursor) :=
  if Text.byteLength (c.rest.take 4) < 4 then
    .error ⟨.endInString, c.offset + Text.byteLength c.rest⟩
  else
    let bad : Except Fault (Nat × Cursor) := .error ⟨.badEscape, c.offset + 4⟩
    match c.rest with
    | x :: y :: z :: w :: rest =>
      match hexValue? x, hexValue? y, hexValue? z, hexValue? w with
      | some a, some b, some d, some e =>
        .ok (a * 0x1000 + b * 0x100 + d * 0x10 + e, ⟨rest, c.offset + 4⟩)
      | _, _, _, _ => bad
    | _ => bad

/-- The character that a backslash and this one stand for. -/
def shortEscape? (c : Char) : Option Char :=
  if c = '"' ∨ c = '\\' ∨ c = '/' then some c
  else if c = 'b' then some (Char.ofNat 0x08)
  else if c = 'f' then some (Char.ofNat 0x0C)
  else if c = 'n' then some '\n'
  else if c = 'r' then some '\r'
  else if c = 't' then some '\t'
  else none

/-- Whether the code is the first half of a surrogate pair. -/
def isHighSurrogate (n : Nat) : Bool := 0xD800 ≤ n && n ≤ 0xDBFF

/-- Whether the code is the second half of a surrogate pair. -/
def isLowSurrogate (n : Nat) : Bool := 0xDC00 ≤ n && n ≤ 0xDFFF

/-- Reads the second half of a surrogate pair, whose first half is `high`. -/
def readPair (high : Nat) (c : Cursor) : Except Fault (Char × Cursor) :=
  match c.rest with
  | [] => c.fail .endInString
  | x :: rest =>
    if x = '\\' then
      let c : Cursor := ⟨rest, c.offset + 1⟩
      match rest with
      | [] => c.fail .endInString
      | y :: rest =>
        if y = 'u' then do
          let (low, c) ← readHex ⟨rest, c.offset + 1⟩
          if isLowSurrogate low then
            .ok (Char.ofNat (0x10000 + (high - 0xD800) * 0x400 + (low - 0xDC00)), c)
          else c.fail .loneSurrogate
        else c.failNext .halfPair
    else c.failNext .halfPair

/-- Reads what follows a backslash. -/
def readEscape (c : Cursor) : Except Fault (Char × Cursor) :=
  match c.rest with
  | [] => c.fail .endInString
  | x :: rest =>
    if x = 'u' then do
      let (n, c) ← readHex ⟨rest, c.offset + 1⟩
      if isLowSurrogate n then c.fail .loneSurrogate
      else if isHighSurrogate n then readPair n c
      else .ok (Char.ofNat n, c)
    else match shortEscape? x with
      | some y => .ok (y, ⟨rest, c.offset + 1⟩)
      | none => c.failNext .badEscape

/-- Reads the characters of a string and the quote behind them.  `done` holds those read before, the
last one first; `fuel` is a text at least as long as what is left. -/
def readChars : List Char → List Char → Cursor → Except Fault (List Char × Cursor)
  | [], _, c => c.fail .endInString
  | _ :: fuel, done, c =>
    match c.rest with
    | [] => c.fail .endInString
    | x :: rest =>
      if x = '"' then .ok (done.reverse, ⟨rest, c.offset + 1⟩)
      else if x = '\\' then do
        let (y, c) ← readEscape ⟨rest, c.offset + 1⟩
        readChars fuel (y :: done) c
      else if x.toNat < 0x20 then c.failNext .controlInString
      else readChars fuel (x :: done) ⟨rest, c.offset + x.utf8Size⟩

/-- Reads a string behind its first quote. -/
def readString (c : Cursor) : Except Fault (String × Cursor) := do
  let (s, c) ← readChars c.rest [] c
  .ok (String.ofList s, c)

/-- Skips what follows a backslash. -/
def skipEscape (c : Cursor) : Except Fault Cursor :=
  match c.rest with
  | [] => c.fail .endInString
  | x :: rest =>
    if x = 'u' then do
      let (_, c) ← readHex ⟨rest, c.offset + 1⟩
      .ok c
    else if (shortEscape? x).isSome then .ok ⟨rest, c.offset + 1⟩
    else c.failNext .badEscape

/-- Skips the characters of a string and the quote behind them. -/
def skipChars : List Char → Cursor → Except Fault Cursor
  | [], c => c.fail .endInString
  | _ :: fuel, c =>
    match c.rest with
    | [] => c.fail .endInString
    | x :: rest =>
      if x = '"' then .ok ⟨rest, c.offset + 1⟩
      else if x = '\\' then do
        let c ← skipEscape ⟨rest, c.offset + 1⟩
        skipChars fuel c
      else if x.toNat < 0x20 then c.fail .controlInString
      else skipChars fuel ⟨rest, c.offset + x.utf8Size⟩

/-- Skips a string behind its first quote. -/
def skipString (c : Cursor) : Except Fault Cursor := skipChars c.rest c

end ApiProto.Json
