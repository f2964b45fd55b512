/-
  JSON numbers: their value and their text.

  An integer of 64 bits keeps its value.  Every other number is a double, formed from its digits
  in a fixed way: the leading digits that fit 64 bits are taken as an integer, rounded to a
  double, and multiplied or divided by a rounded power of ten.  The result is therefore not always
  the nearest double; `NumberText.value` states exactly which one it is.

  A double is written with the fewest digits that read back: with a point if its magnitude is
  between `0.00001` and `10 ^ 16`, and otherwise with an exponent that has a sign.
-/
import ApiProto.Number.Shortest

namespace ApiProto.Json

/-- An integer of 64 bits, signed or not, or a finite double. -/
inductive Number where
  | integer (n : Int)
  | float (x : Binary64)
  deriving DecidableEq, Repr

/-! ## Reading -/

/-- A number as it is spelled: the digits before the point, those after it, and the exponent's
sign and digits. -/
structure NumberText where
  negative : Bool
  whole : List Char
  fraction : Option (List Char)
  exponent : Option (Bool × List Char)
  deriving DecidableEq, Repr

/-- The value of a digit. -/
def digitValue (c : Char) : Nat := c.toNat - '0'.toNat

/-- Appends digits to a number while it does not exceed the limit; gives the number and the digits
that are left. -/
def absorb (limit : Nat) : Nat → List Char → Nat × List Char
  | n, [] => (n, [])
  | n, d :: ds =>
    if limit < 10 * n + digitValue d then (n, d :: ds)
    else absorb limit (10 * n + digitValue d) ds

/-- The largest significand. -/
def maxSignificand : Nat := Nat.pow 2 64 - 1

/-- The largest exponent that is read as a number. -/
def maxExponentValue : Nat := Nat.pow 2 31 - 1

/-- The largest power of ten that is a double. -/
def maxPower : Nat := 308

/-- A power of ten, rounded to a double. -/
def powerOfTen (k : Nat) : Option Magnitude := Magnitude.ofNat (Nat.pow 10 k)

/-- A double times a power of ten.  A negative power below the range of doubles is applied in steps
of `10 ^ 308`, each rounded; `fuel` bounds their number. -/
def scaleByTen : Nat → Magnitude → Int → Option Magnitude
  | fuel, m, e =>
    if e.natAbs ≤ maxPower then do
      let p ← powerOfTen e.natAbs
      if 0 ≤ e then m.mul p else m.div p
    else if m.isZero then some m
    else if 0 ≤ e then none
    else match fuel with
      | 0 => some Magnitude.zero
      | fuel + 1 => do
        let p ← powerOfTen maxPower
        let m' ← m.div p
        scaleByTen fuel m' (e + maxPower)

/-- The outcome of forming the value of a number. -/
inductive NumberValue where
  | value (n : Number)
  /-- The number is too large; `unread` of its last characters do not matter to that. -/
  | outOfRange (unread : Nat)
  deriving DecidableEq, Repr

/-- A double from its significand and its power of ten. -/
def ofParts (negative : Bool) (significand : Nat) (e : Int) : NumberValue :=
  match (Magnitude.ofNat significand).bind fun m => scaleByTen e.natAbs m e with
  | some m => .value (.float ⟨negative, m⟩)
  | none => .outOfRange 0

/-- The value of a number without fraction and exponent whose digits fit 64 bits. -/
def ofInteger (negative : Bool) (n : Nat) : NumberValue :=
  if negative then
    if n = 0 ∨ Nat.pow 2 63 < n then ofParts true n 0 else .value (.integer (-(n : Int)))
  else .value (.integer n)

/-- The value of a number. -/
def NumberText.value (t : NumberText) : NumberValue :=
  let (n, dropped) := absorb maxSignificand 0 t.whole
  if dropped = [] ∧ t.fraction = none ∧ t.exponent = none then ofInteger t.negative n
  else
    let fraction := t.fraction.getD []
    let (n', unused) := absorb maxSignificand n fraction
    let shift : Int := Int.ofNat dropped.length - (Int.ofNat fraction.length - Int.ofNat unused.length)
    match t.exponent with
    | none => ofParts t.negative n' shift
    | some (down, digits) =>
      let (e, rest) := absorb maxExponentValue 0 digits
      if rest = [] then ofParts t.negative n' (if down then shift - e else shift + e)
      else if n' ≠ 0 ∧ !down then .outOfRange (rest.length - 1)
      else .value (.float ⟨t.negative, Magnitude.zero⟩)

/-! ## Writing -/

/-- `n` zeros. -/
def zeros (n : Nat) : List Char := List.replicate n '0'

/-- An exponent, always with its sign. -/
def writeExponent (e : Int) : List Char :=
  (if e < 0 then '-' else '+') :: Nat.toDigits 10 e.natAbs

/-- A magnitude: `digits` with the point after `point` of them, or in scientific notation. -/
def writeDecimal (digits : List Char) (point : Int) : List Char :=
  let n : Int := digits.length
  if n ≤ point ∧ point ≤ 16 then digits ++ zeros (point - n).toNat ++ ['.', '0']
  else if 0 < point ∧ point ≤ 16 then digits.take point.toNat ++ '.' :: digits.drop point.toNat
  else if -5 < point ∧ point ≤ 0 then ['0', '.'] ++ zeros (-point).toNat ++ digits
  else
    let mantissa := match digits with
      | d :: e :: rest => d :: '.' :: e :: rest
      | ds => ds
    mantissa ++ 'e' :: writeExponent (point - 1)

/-- The text of a double. -/
def writeDouble (x : Binary64) : List Char :=
  (if x.negative then ['-'] else []) ++
    if x.magnitude.isZero then ['0', '.', '0']
    else
      let d := x.magnitude.shortest
      let digits := Nat.toDigits 10 d.digits
      writeDecimal digits (Int.ofNat digits.length + d.exponent)

/-- The text of a number. -/
def Number.text : Number → String
  | .integer n => toString n
  | .float x => String.ofList (writeDouble x)

end ApiProto.Json
