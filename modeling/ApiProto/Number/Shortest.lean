/-
  The shortest decimal of a double.

  A decimal stands for the double nearest to it.  Among the decimals that stand for a given double
  `shortest` finds one with the fewest digits, and of these the one nearest to the exact value: for
  1, 2, … digits it looks at the two neighbours of the value on the decimal grid of that many
  digits, until one lies within the interval that rounds to the double.  Seventeen digits are
  always enough.
-/
import ApiProto.Number.Binary64

namespace ApiProto

/-- A decimal `digits * 10 ^ exponent`. -/
structure Decimal where
  digits : Nat
  exponent : Int
  deriving DecidableEq, Repr

namespace Magnitude

/-- Numerators of the two ends of the interval that rounds to a double that is not zero, and of the
double itself, over one denominator. -/
structure Interval where
  low : Nat
  mid : Nat
  high : Nat
  den : Nat
  closed : Bool

/-- The interval of a double.  Below a power of two the step is half as long, except at the
smallest exponent.  The ends belong to it if the mantissa is even. -/
def interval (x : Magnitude) : Interval :=
  let narrow := x.mantissa = hiddenBit ∧ minExponent < x.exponent
  let low := if narrow then 4 * x.mantissa - 1 else 4 * x.mantissa - 2
  let (up, den) : Nat × Nat :=
    if 0 ≤ x.exponent then (Nat.pow 2 x.exponent.toNat, 4)
    else (1, 4 * Nat.pow 2 (-x.exponent).toNat)
  ⟨low * up, 4 * x.mantissa * up, (4 * x.mantissa + 2) * up, den, x.mantissa % 2 == 0⟩

/-- `digits * 10 ^ exponent` over the denominator of an interval, and the factor that both sides
are then multiplied by. -/
def Interval.place (i : Interval) (d : Decimal) : Nat × Nat :=
  if 0 ≤ d.exponent then (d.digits * Nat.pow 10 d.exponent.toNat * i.den, 1)
  else (d.digits * i.den, Nat.pow 10 (-d.exponent).toNat)

/-- Whether the decimal lies in the interval. -/
def Interval.holds (i : Interval) (d : Decimal) : Bool :=
  let (n, k) := i.place d
  if i.closed then i.low * k ≤ n && n ≤ i.high * k else i.low * k < n && n < i.high * k

/-- The greatest decimal with the given exponent that is not above the double. -/
def Interval.below (i : Interval) (e : Int) : Decimal :=
  if 0 ≤ e then ⟨i.mid / (i.den * Nat.pow 10 e.toNat), e⟩
  else ⟨i.mid * Nat.pow 10 (-e).toNat / i.den, e⟩

/-- Whether `d` is nearer to the double than the next decimal above it on the same grid; if both are
equally near, whether its last digit is even. -/
def Interval.nearerBelow (i : Interval) (d : Decimal) : Bool :=
  let (n, k) := i.place d
  let (n', _) := i.place ⟨d.digits + 1, d.exponent⟩
  let doubled := 2 * (i.mid * k)
  doubled < n + n' || (doubled == n + n' && d.digits % 2 == 0)

/-- The nearer of the two neighbours on the grid of exponent `e` that lie in the interval. -/
def Interval.onGrid? (i : Interval) (e : Int) : Option Decimal :=
  let d := i.below e
  let u : Decimal := ⟨d.digits + 1, e⟩
  match i.holds d, i.holds u with
  | true, true => some (if i.nearerBelow d then d else u)
  | true, false => some d
  | false, true => some u
  | false, false => none

/-- The number `k` with `10 ^ (k - 1) ≤ mid / den < 10 ^ k`, searched upwards from a lower bound. -/
def Interval.decimalPoint (i : Interval) : Nat → Int → Int
  | 0, k => k
  | fuel + 1, k =>
    let (n, f) := i.place ⟨1, k⟩
    if i.mid * f < n then k else i.decimalPoint fuel (k + 1)

/-- The first grid with a hit, with one more digit at each step. -/
def Interval.search (i : Interval) : Nat → Int → Decimal
  | 0, e => i.below e
  | fuel + 1, e => (i.onGrid? e).getD (i.search fuel (e - 1))

/-- The decimal without the zeros at its end; `fuel` bounds their number. -/
def dropZeros : Nat → Decimal → Decimal
  | 0, d => d
  | fuel + 1, d =>
    if d.digits ≠ 0 ∧ d.digits % 10 = 0 then dropZeros fuel ⟨d.digits / 10, d.exponent + 1⟩ else d

/-- The shortest decimal that stands for the double. -/
def shortest (x : Magnitude) : Decimal :=
  if x.isZero then ⟨0, 0⟩
  else
    let i := x.interval
    let point := i.decimalPoint 700 (-330)
    dropZeros 17 (i.search 17 (point - 1))

end Magnitude

end ApiProto
