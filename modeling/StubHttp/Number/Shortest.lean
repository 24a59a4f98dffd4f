import StubHttp.Number.Binary64

/-!
# Shortest decimals

A nonzero double is written with the fewest decimal digits that read back as
the same double, and of those with the digits nearest to its value. The reals
that round to the double form an interval, its ends included exactly when the
significand is even. A grid of step `10 ^ p` with a point in that interval has
its nearest such point beside the value itself (`onGrid?` tries the two
neighbours), and the coarsest grid that has one gives the fewest digits
(`shortestFrom` goes from coarse to fine).

Everything is multiplied by `4 * 2 ^ 1074`, so that the ends of the interval,
a half or a quarter of a step away, are whole numbers too.
-/

namespace StubHttp.Binary64

def quarters (x : Binary64) : Nat :=
  4 * x.units

/-- The distance between neighbouring doubles above `x`, in quarters of a unit. -/
def stepQuarters (x : Binary64) : Nat :=
  4 * Nat.pow 2 (x.exponent.val - 1)

/-- The lower end of the interval that rounds to `x`; below a power of two the step is half. -/
def lowerQuarters (x : Binary64) : Nat :=
  if x.fraction.val = 0 ∧ 1 < x.exponent.val then x.quarters - x.stepQuarters / 4
  else x.quarters - x.stepQuarters / 2

def upperQuarters (x : Binary64) : Nat :=
  x.quarters + x.stepQuarters / 2

/-- Whether `c * num / den` quarters lie in the interval that rounds to `x`. -/
def rounds (x : Binary64) (c num den : Nat) : Bool :=
  let here := c * num
  if x.significand % 2 = 0 then x.lowerQuarters * den ≤ here && here ≤ x.upperQuarters * den
  else x.lowerQuarters * den < here && here < x.upperQuarters * den

/-- The point nearest to `x` on the grid of step `10 ^ p`, if it reads back as `x`. -/
def onGrid? (x : Binary64) (p : Int) : Option Nat :=
  let num := 4 * Nat.pow 2 1074 * Nat.pow 10 p.toNat
  let den := Nat.pow 10 (-p).toNat
  let below := x.quarters * den / num
  match x.rounds below num den, x.rounds (below + 1) num den with
  | true, true =>
    let twice := 2 * (x.quarters * den)
    let middle := (2 * below + 1) * num
    if twice < middle ∨ (twice = middle ∧ below % 2 = 0) then some below else some (below + 1)
  | true, false => some below
  | false, true => some (below + 1)
  | false, false => none

/-- The nearest point that reads back, on the coarsest grid from `10 ^ (n - 1074)` down that has
one. On the finest, `10 ^ -1074`, every double is itself a point. -/
def shortestFrom (x : Binary64) : Nat → Nat × Int
  | 0 => (x.units * Nat.pow 5 1074, -1074)
  | n + 1 =>
    match x.onGrid? (n + 1 - 1074) with
    | some c => (c, n + 1 - 1074)
    | none => shortestFrom x n

/-- Digits `c` and exponent `p` with the magnitude of `x` written as `c * 10 ^ p`. -/
def shortest (x : Binary64) : Nat × Int :=
  shortestFrom x (1074 + 309)

end StubHttp.Binary64
