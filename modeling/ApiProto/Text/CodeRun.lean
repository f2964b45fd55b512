/-
  Sets of code points, as ascending runs.

  A character property of the Unicode Standard is a set of some thousand code points that falls
  into a few hundred runs of equal stride.  `inRuns` searches such a list from its start and ends
  at the first run that begins beyond the point.
-/

namespace ApiProto.Text

/-- The code points `first`, `first + stride`, … up to `last`. -/
structure CodeRun where
  first : Nat
  last : Nat
  stride : Nat
  deriving Repr, DecidableEq

/-- Whether the code point is one of the run. -/
def CodeRun.contains (r : CodeRun) (n : Nat) : Bool :=
  r.first ≤ n && n ≤ r.last && (n - r.first) % r.stride == 0

/-- Whether the code point is in one of the runs, which ascend. -/
def inRuns : List CodeRun → Nat → Bool
  | [], _ => false
  | r :: rest, n => if n < r.first then false else r.contains n || inRuns rest n

end ApiProto.Text
