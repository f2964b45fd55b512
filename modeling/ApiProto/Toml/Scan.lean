/-
  The leaves of a TOML document: blanks, comments, keys, strings, numbers and times.

  A scanner takes the text that is left to a value and the text behind it, or refuses.  The scanners
  of whole tokens (`readInteger?`, `readReal?`, `isDateTime`) look at a token that has been cut off.

Where a scanner takes several steps, `fuel` bounds their number: each step reads a character, and
`fuel` is a text at least as long as what is left.
-/
import ApiProto.Toml.Value

namespace ApiProto.Toml

/-! ## Blanks and comments -/

/-- Whether the character is a blank within a line. -/
def isBlank (c : Char) : Bool := c == ' ' || c == '\t'

/-- Whether the character may stand in a comment or a string: no control but the tab. -/
def isPlain (c : Char) : Bool := c == '\t' || (0x20 ≤ c.toNat && c.toNat ≠ 0x7F)

/-- The text behind blanks. -/
def skipBlanks (s : List Char) : List Char := s.dropWhile isBlank

/-- The text behind a line break, if it starts with one. -/
def newline? : List Char → Option (List Char)
  | '\n' :: rest => some rest
  | '\r' :: '\n' :: rest => some rest
  | _ => none

/-- The text behind blanks and a comment, if there is one. -/
def skipComment (s : List Char) : List Char :=
  match skipBlanks s with
  | '#' :: rest => rest.dropWhile isPlain
  | s => s

/-- The text behind blanks, comments and line breaks. -/
def skipLines : List Char → List Char → List Char
  | [], s => s
  | _ :: fuel, s =>
    let s := skipComment s
    match newline? s with
    | some rest => skipLines fuel rest
    | none => s

/-- The text behind blanks, comments and line breaks. -/
def skipAll (s : List Char) : List Char := skipLines s s

/-! ## Strings -/

/-- The value of a hexadecimal digit. -/
def hexValue? (c : Char) : Option Nat :=
  if c.isDigit then some (c.toNat - '0'.toNat)
  else if 'a' ≤ c ∧ c ≤ 'f' then some (c.toNat - 'a'.toNat + 10)
  else if 'A' ≤ c ∧ c ≤ 'F' then some (c.toNat - 'A'.toNat + 10)
  else none

/-- The code point of `n` hexadecimal digits, after those that came to `value`. -/
def readCode : Nat → Nat → List Char → Option (Char × List Char)
  | 0, value, s => if h : value.isValidChar then some (Char.ofNatAux value h, s) else none
  | _ + 1, _, [] => none
  | n + 1, value, c :: rest =>
    match hexValue? c with
    | some d => readCode n (16 * value + d) rest
    | none => none

/-- What follows a backslash. -/
def readEscape : List Char → Option (Char × List Char)
  | [] => none
  | c :: rest =>
    if c = '"' ∨ c = '\\' then some (c, rest)
    else if c = 'b' then some (Char.ofNat 0x08, rest)
    else if c = 't' then some ('\t', rest)
    else if c = 'n' then some ('\n', rest)
    else if c = 'f' then some (Char.ofNat 0x0C, rest)
    else if c = 'r' then some ('\r', rest)
    else if c = 'e' then some (Char.ofNat 0x1B, rest)
    else if c = 'x' then readCode 2 0 rest
    else if c = 'u' then readCode 4 0 rest
    else if c = 'U' then readCode 8 0 rest
    else none

/-- The rest of a string on one line.  Escapes count unless it is literal; `done` holds the
characters so far, the last one first. -/
def readLine (quote : Char) (literal : Bool) :
    List Char → List Char → List Char → Option (String × List Char)
  | [], _, _ => none
  | _ :: _, _, [] => none
  | _ :: fuel, done, c :: rest =>
    if c = quote then some (String.ofList done.reverse, rest)
    else if c = '\\' ∧ !literal then
      match readEscape rest with
      | some (x, rest) => readLine quote literal fuel (x :: done) rest
      | none => none
    else if isPlain c then readLine quote literal fuel (c :: done) rest
    else none

/-- The text behind a backslash that ends a line: the blanks and line breaks that follow it, of
which there is at least one break. -/
def joinLines? (s : List Char) : Option (List Char) :=
  match newline? (skipBlanks s) with
  | some rest => some (skipBreaks rest rest)
  | none => none
where
  /-- The text behind blanks and line breaks. -/
  skipBreaks : List Char → List Char → List Char
    | [], s => s
    | _ :: fuel, s =>
      let s := skipBlanks s
      match newline? s with
      | some rest => skipBreaks fuel rest
      | none => s

/-- The rest of a string over several lines.  Three quotes end it; one or two more before them
belong to it. -/
def readLines (quote : Char) (literal : Bool) :
    List Char → List Char → List Char → Option (String × List Char)
  | [], _, _ => none
  | _ :: fuel, done, s =>
    match newline? s with
    | some rest => readLines quote literal fuel ('\n' :: done) rest
    | none =>
      match s with
      | [] => none
      | c :: rest =>
        if c = quote then
          let quotes := s.takeWhile (· == quote)
          let behind := s.dropWhile (· == quote)
          if quotes.length < 3 then readLines quote literal fuel (quotes ++ done) behind
          else if quotes.length ≤ 5 then
            some (String.ofList (quotes.drop 3 ++ done).reverse, behind)
          else none
        else if c = '\\' ∧ !literal then
          match joinLines? rest with
          | some rest => readLines quote literal fuel done rest
          | none =>
            match readEscape rest with
            | some (x, rest) => readLines quote literal fuel (x :: done) rest
            | none => none
        else if isPlain c then readLines quote literal fuel (c :: done) rest
        else none

/-- A string of one line, given from its first quote on. -/
def readShort : List Char → Option (String × List Char)
  | c :: rest =>
    if c = '"' then readLine '"' false rest [] rest
    else if c.toNat = 0x27 then readLine c true rest [] rest
    else none
  | [] => none

/-- A string of one or several lines, given from its first quote on. -/
def readString : List Char → Option (String × List Char)
  | a :: b :: c :: rest =>
    if (a = '"' ∨ a.toNat = 0x27) ∧ b = a ∧ c = a then
      let body := (newline? rest).getD rest
      readLines a (a ≠ '"') body [] body
    else readShort (a :: b :: c :: rest)
  | s => readShort s

/-! ## Keys -/

/-- Whether the character may stand in a key without quotes. -/
def isBareKey (c : Char) : Bool := c.isAlphanum || c == '_' || c == '-'

/-- A key without dots. -/
def readSimpleKey (s : List Char) : Option (String × List Char) :=
  match s with
  | [] => none
  | c :: _ =>
    if isBareKey c then some (String.ofList (s.takeWhile isBareKey), s.dropWhile isBareKey)
    else readShort s

/-- A key, part by part, and the text behind it and its blanks. -/
def readParts : List Char → List Char → Option (List String × List Char)
  | [], _ => none
  | _ :: fuel, s => do
    let (k, s) ← readSimpleKey (skipBlanks s)
    match skipBlanks s with
    | '.' :: rest => do
      let (ks, s) ← readParts fuel rest
      some (k :: ks, s)
    | s => some ([k], s)

/-- The largest number of parts before the last part of a key. -/
def maxKeyPath : Nat := 80

/-- A key: the parts before the last one, the last one, and the text behind it and its blanks. -/
def readKey (s : List Char) : Option (List String × String × List Char) := do
  let (ks, s) ← readParts s s
  let last ← ks.getLast?
  let path := ks.dropLast
  if path.length ≤ maxKeyPath then some (path, last, s) else none

/-! ## Numbers -/

/-- Digits with single underscores between them, without the underscores. -/
def readDigits? (isDigit : Char → Bool) : List Char → Option (List Char)
  | [] => none
  | [c] => if isDigit c then some [c] else none
  | c :: '_' :: rest => if isDigit c then (readDigits? isDigit rest).map (c :: ·) else none
  | c :: rest => if isDigit c then (readDigits? isDigit rest).map (c :: ·) else none

/-- The value of digits in a base. -/
def digitsValue (base : Nat) (ds : List Char) : Nat :=
  ds.foldl (fun n c => base * n + (hexValue? c).getD 0) 0

/-- A sign and what follows it. -/
def readSign : List Char → Bool × List Char
  | '-' :: rest => (true, rest)
  | '+' :: rest => (false, rest)
  | s => (false, s)

/-- Decimal digits without a zero in front of others. -/
def readDecimal? (s : List Char) : Option (List Char) := do
  let ds ← readDigits? Char.isDigit s
  if ds.head? = some '0' ∧ ds ≠ ['0'] then none else some ds

/-- An integer, decimal with a sign or in another base without. -/
def readInteger? (token : List Char) : Option Int :=
  match token with
  | '0' :: 'x' :: ds =>
    (readDigits? (fun c => (hexValue? c).isSome) ds).map fun ds => (digitsValue 16 ds : Int)
  | '0' :: 'o' :: ds =>
    (readDigits? (fun c => '0' ≤ c ∧ c ≤ '7') ds).map fun ds => (digitsValue 8 ds : Int)
  | '0' :: 'b' :: ds =>
    (readDigits? (fun c => c == '0' || c == '1') ds).map fun ds => (digitsValue 2 ds : Int)
  | _ =>
    let (negative, ds) := readSign token
    (readDecimal? ds).map fun ds =>
      if negative then -(digitsValue 10 ds : Int) else (digitsValue 10 ds : Int)

/-- Whether each part of a text between underscores, after the first one, starts with a hexadecimal
digit, and each but the last one ends with such a digit. -/
def joinsDigits : List Char → Bool
  | [] => true
  | [c] => c ≠ '_'
  | '_' :: c :: rest => (hexValue? c).isSome && joinsDigits (c :: rest)
  | c :: '_' :: rest => (hexValue? c).isSome && joinsDigits ('_' :: rest)
  | _ :: c :: rest => joinsDigits (c :: rest)

/-- Whether the token is spelled like an integer, although it may have no value: a base without
digits, or decimal digits with an underscore behind them and no mark of another kind of number. -/
def looksInteger (token : List Char) : Bool :=
  if token = "0x".toList ∨ token = "0o".toList ∨ token = "0b".toList then true
  else
    let (_, s) := readSign token
    let behind := s.dropWhile Char.isDigit
    s.head?.any (fun c => c.isDigit && c != '0') && behind.head? == some '_' &&
      !behind.any ['.', 'e', 'E', ' '].contains && joinsDigits behind

/-- A number with a point or an exponent, or one of the names for infinity and for no number. -/
def readReal? (token : List Char) : Option Real :=
  let (negative, s) := readSign token
  if s = "inf".toList then some (.infinite negative)
  else if s = "nan".toList then some .nan
  else do
    let isMark := fun c => c == 'e' || c == 'E'
    let mantissa := s.takeWhile (!isMark ·)
    let whole ← readDecimal? (mantissa.takeWhile (· != '.'))
    let fraction ← match mantissa.dropWhile (· != '.') with
      | [] => some []
      | _ :: ds => readDigits? Char.isDigit ds
    let exponent ← match s.dropWhile (!isMark ·) with
      | [] => if mantissa.contains '.' then some 0 else none
      | _ :: e =>
        let (down, ds) := readSign e
        (readDigits? Char.isDigit ds).map fun ds =>
          if down then -(digitsValue 10 ds : Int) else (digitsValue 10 ds : Int)
    some (.finite negative ⟨digitsValue 10 (whole ++ fraction), exponent - fraction.length⟩)

/-! ## Dates and times -/

/-- A number of exactly `n` digits from `low` to `high`. -/
def readField (n low high : Nat) (s : List Char) : Option (Nat × List Char) :=
  let ds := s.take n
  if ds.length = n ∧ ds.all Char.isDigit then
    let v := digitsValue 10 ds
    if low ≤ v ∧ v ≤ high then some (v, s.drop n) else none
  else none

/-- The text behind a character. -/
def expect (c : Char) : List Char → Option (List Char)
  | x :: rest => if x = c then some rest else none
  | [] => none

/-- The days of a month. -/
def daysOf (year month : Nat) : Nat :=
  if month = 2 then
    if year % 4 = 0 ∧ (year % 100 ≠ 0 ∨ year % 400 = 0) then 29 else 28
  else if [4, 6, 9, 11].contains month then 30 else 31

/-- The text behind a date. -/
def skipDate (s : List Char) : Option (List Char) := do
  let (year, s) ← readField 4 0 9999 s
  let (month, s) ← readField 2 1 12 (← expect '-' s)
  let (_, s) ← readField 2 1 (daysOf year month) (← expect '-' s)
  some s

/-- The text behind a time; the seconds and their fraction may be left out. -/
def skipTime (s : List Char) : Option (List Char) := do
  let (_, s) ← readField 2 0 23 s
  let (_, s) ← readField 2 0 59 (← expect ':' s)
  match s with
  | ':' :: rest => do
    let (_, s) ← readField 2 0 60 rest
    match s with
    | '.' :: ds =>
      if ds.head?.any Char.isDigit then some (ds.dropWhile Char.isDigit) else none
    | s => some s
  | s => some s

/-- The text behind an offset from universal time. -/
def skipZone : List Char → Option (List Char)
  | [] => some []
  | c :: rest =>
    if c = 'Z' ∨ c = 'z' then some rest
    else if c = '+' ∨ c = '-' then do
      let (_, s) ← readField 2 0 23 rest
      let (_, s) ← readField 2 0 59 (← expect ':' s)
      some s
    else none

/-- Whether the token is a date, a time, or both. -/
def isDateTime (token : List Char) : Bool :=
  match skipDate token with
  | some [] => true
  | some (c :: rest) =>
    (c = 'T' ∨ c = 't' ∨ c = ' ') && ((skipTime rest).bind skipZone) == some []
  | none => skipTime token == some []

/-! ## Tokens -/

/-- Whether the character ends a token. -/
def endsToken (c : Char) : Bool :=
  [' ', '\t', '\r', '\n', ',', '=', '[', ']', '\x7b', '\x7d', '#'].contains c

/-- The next token.  A time may follow a date after a space. -/
def takeToken (s : List Char) : List Char × List Char :=
  let token := s.takeWhile (!endsToken ·)
  let rest := s.dropWhile (!endsToken ·)
  match rest with
  | ' ' :: time =>
    if skipDate token == some [] ∧ time.head?.any Char.isDigit then
      (token ++ ' ' :: time.takeWhile (!endsToken ·), time.dropWhile (!endsToken ·))
    else (token, rest)
  | _ => (token, rest)

/-- The value of a token. -/
def readToken? (token : List Char) : Option Value :=
  if token = "true".toList then some (.boolean true)
  else if token = "false".toList then some (.boolean false)
  else if let some n := readInteger? token then some (.integer n)
  else if let some x := readReal? token then some (.real x)
  else if isDateTime token then some .dateTime
  else if looksInteger token then some .noInteger
  else none

end ApiProto.Toml
