/-
  Finite doubles, exactly.

  A `Binary64` is a sign and a magnitude `mantissa * 2 ^ exponent`, with the mantissa below
  `2 ^ 53` and the exponent from -1074 to 971.  Every operation forms the exact rational result
  and rounds it once, to the nearest double, ties to the even mantissa (`roundRatio`); a result
  beyond the largest double has no value.
-/

namespace ApiProto

/-- A magnitude `mantissa * 2 ^ exponent`. -/
structure Magnitude where
  mantissa : Nat
  exponent : Int
  deriving DecidableEq, Repr

namespace Magnitude

/-- The exponent of the smallest steps, and of zero. -/
def minExponent : Int := -1074

/-- The exponent of the largest doubles. -/
def maxExponent : Int := 971

/-- The smallest mantissa of 53 bits. -/
def hiddenBit : Nat := Nat.pow 2 52

/-- The magnitude zero. -/
def zero : Magnitude := ⟨0, minExponent⟩

/-- The quotient to the nearest integer, a tie to the even one. -/
def divRoundEven (num den : Nat) : Nat :=
  let q := num / den
  let r := num % den
  if 2 * r < den then q else if den < 2 * r then q + 1 else if q % 2 = 0 then q else q + 1

/-- Numerator and denominator of `num / den / 2 ^ e`. -/
def scale (num den : Nat) (e : Int) : Nat × Nat :=
  if 0 ≤ e then (num, den * Nat.pow 2 e.toNat) else (num * Nat.pow 2 (-e).toNat, den)

/-- The exponent at which `num / den` has a mantissa of 53 bits. -/
def fullExponent (num den : Nat) : Int :=
  let e : Int := Int.ofNat num.log2 - Int.ofNat den.log2 - 52
  let (n, d) := scale num den e
  if n / d < hiddenBit then e - 1 else e

/-- The double nearest to `num / den`; none if that is beyond the largest double. -/
def roundRatio (num den : Nat) : Option Magnitude :=
  if num = 0 then some zero
  else
    let e := max (fullExponent num den) minExponent
    let (n, d) := scale num den e
    let m := divRoundEven n d
    let r : Magnitude := if m = 2 * hiddenBit then ⟨hiddenBit, e + 1⟩ else ⟨m, e⟩
    if maxExponent < r.exponent then none else some r

/-- The exact value as a fraction. -/
def ratio (x : Magnitude) : Nat × Nat :=
  if 0 ≤ x.exponent then (x.mantissa * Nat.pow 2 x.exponent.toNat, 1)
  else (x.mantissa, Nat.pow 2 (-x.exponent).toNat)

/-- Whether the magnitude is zero. -/
def isZero (x : Magnitude) : Bool := x.mantissa == 0

/-- The rounded product. -/
def mul (x y : Magnitude) : Option Magnitude :=
  roundRatio (x.ratio.1 * y.ratio.1) (x.ratio.2 * y.ratio.2)

/-- The rounded quotient; the divisor is not zero. -/
def div (x y : Magnitude) : Option Magnitude :=
  roundRatio (x.ratio.1 * y.ratio.2) (x.ratio.2 * y.ratio.1)

/-- The double nearest to a natural number. -/
def ofNat (n : Nat) : Option Magnitude := roundRatio n 1

end Magnitude

/-- A finite double: a sign and a magnitude.  Zero has two forms. -/
structure Binary64 where
  negative : Bool
  magnitude : Magnitude
  deriving DecidableEq, Repr

end ApiProto
