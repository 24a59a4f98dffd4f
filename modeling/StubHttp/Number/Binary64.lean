/-!
# Finite binary64 numbers

A finite double is kept as the three fields of its encoding, so that every
value of the type is finite and two values are equal exactly when their
encodings are. A positive double is a whole number of *units* of `2 ^ -1074`
(`Binary64.units`), so all arithmetic here is on natural numbers: an operation
forms the exact quotient of two naturals and `ofRatio?` rounds it once, to the
nearest double with ties to the even encoding, failing when that would be
infinite.
-/

namespace StubHttp

/-- A finite double: sign, biased exponent and the 52 bits of its fraction. -/
structure Binary64 where
  negative : Bool
  exponent : Fin 2047
  fraction : Fin (Nat.pow 2 52)
  deriving DecidableEq

namespace Binary64

/-! ## The exact value -/

/-- The hidden bit and the fraction, as one number. -/
def significand (x : Binary64) : Nat :=
  if x.exponent.val = 0 then x.fraction.val else Nat.pow 2 52 + x.fraction.val

/-- The magnitude in units of `2 ^ -1074`. -/
def units (x : Binary64) : Nat :=
  x.significand * Nat.pow 2 (x.exponent.val - 1)

def isZero (x : Binary64) : Bool :=
  x.units == 0

def zero (negative : Bool) : Binary64 :=
  ⟨negative, 0, 0⟩

/-! ## Rounding -/

/-- The natural number nearest to `num / den`, an exact half going to the even neighbour. -/
def divToEven (num den : Nat) : Nat :=
  let below := num / den
  let rest := num % den
  if 2 * rest > den ∨ (2 * rest = den ∧ below % 2 = 1) then below + 1 else below

/-- The encoding of the double nearest to `num / den`, exponent field above fraction field.
A fraction that rounds up to the next power of two carries into the exponent. -/
def nearestBits (num den : Nat) : Nat :=
  let units := num * Nat.pow 2 1074
  let shift := (units / den).log2 - 52
  shift * Nat.pow 2 52 + divToEven units (den * Nat.pow 2 shift)

/-- The double nearest to `num / den`, or none when it would be infinite. -/
def ofRatio? (negative : Bool) (num den : Nat) : Option Binary64 :=
  let bits := nearestBits num den
  if h : bits / Nat.pow 2 52 < 2047 then
    some ⟨negative, ⟨bits / Nat.pow 2 52, h⟩, ⟨bits % Nat.pow 2 52, Nat.mod_lt _ (by decide)⟩⟩
  else
    none

/-- The nearest double to a natural number, or none when it would be infinite. -/
def ofNat? (negative : Bool) (n : Nat) : Option Binary64 :=
  ofRatio? negative n 1

/-! ## Powers of ten -/

/-- The magnitude, in units, of the double nearest to `10 ^ k`; none beyond `10 ^ 308`. -/
def tenPowUnits? (k : Nat) : Option Nat :=
  if k ≤ 308 then (ofNat? false (Nat.pow 10 k)).map units else none

/-- The rounded product with the double nearest to `10 ^ k`. -/
def mulTenPow? (x : Binary64) (k : Nat) : Option Binary64 := do
  let t ← tenPowUnits? k
  ofRatio? x.negative (x.units * t) (Nat.pow 2 (2 * 1074))

/-- The rounded quotient by the double nearest to `10 ^ k`. -/
def divTenPow? (x : Binary64) (k : Nat) : Option Binary64 := do
  let t ← tenPowUnits? k
  ofRatio? x.negative x.units t

/-- The double scaled down by `10 ^ k`. Up to 308 this is one division; beyond, a division by
`10 ^ 308` comes first, as often as needed, each rounded on its own. -/
def scaleDown? (x : Binary64) (k : Nat) : Option Binary64 :=
  if k ≤ 308 then x.divTenPow? k
  else if x.isZero then some x
  else do (← x.divTenPow? 308).scaleDown? (k - 308)
termination_by k

/-- The double scaled by `10 ^ e`, or none when it would be infinite. A zero stays what it is. -/
def scaleTen? (x : Binary64) (e : Int) : Option Binary64 :=
  if e < 0 then x.scaleDown? e.natAbs
  else if e.natAbs ≤ 308 then x.mulTenPow? e.natAbs
  else if x.isZero then some x
  else none

end Binary64

end StubHttp
