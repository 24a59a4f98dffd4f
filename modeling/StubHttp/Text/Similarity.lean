/-!
# Similar words

How much one word resembles another, for suggesting what may have been meant.
Two equal characters match if they stand no further apart than about half the
longer word, each being matched once. With `m` matches in words of lengths `a`
and `b`, of which `t` pairs are out of order, the likeness is the mean of
`m / a`, `m / b` and `(m - t) / m`. It is kept as an exact fraction.
-/

namespace StubHttp.Text

structure Likeness where
  num : Nat
  den : Nat

/-- Marks the first character `c` that is not yet marked, among those at the places from `low` to
below `high`. The list starts at place `i`. -/
def markFirst? (c : Char) (low high : Nat) : Nat → List (Char × Bool) → Option (List (Char × Bool))
  | _, [] => none
  | i, (d, used) :: rest =>
    if low ≤ i ∧ i < high ∧ c = d ∧ !used then some ((d, true) :: rest)
    else (markFirst? c low high (i + 1) rest).map ((d, used) :: ·)

/-- Matches the characters of a word from place `i` on. Gives those that found a match, and the
other word with its matches marked. -/
def matchFrom (reach : Nat) : Nat → List Char → List (Char × Bool) →
    List Char × List (Char × Bool)
  | _, [], other => ([], other)
  | i, c :: cs, other =>
    match markFirst? c (i - reach) (i + reach + 1) 0 other with
    | some other =>
      let (found, other) := matchFrom reach (i + 1) cs other
      (c :: found, other)
    | none => matchFrom reach (i + 1) cs other

/-- How much two words are alike, from nothing to one. -/
def likeness (s t : String) : Likeness :=
  let a := s.length
  let b := t.length
  let (found, other) := matchFrom (max a b / 2 - 1) 0 s.toList (t.toList.map (·, false))
  let m := found.length
  if m = 0 then ⟨if a = 0 ∧ b = 0 then 1 else 0, 1⟩
  else
    let counterparts := (other.filter (·.2)).map (·.1)
    let misplaced := ((found.zip counterparts).filter fun (c, d) => c ≠ d).length / 2
    ⟨m * m * b + m * m * a + (m - misplaced) * a * b, 3 * a * b * m⟩

/-- At least seven tenths alike. -/
def Likeness.isClose (l : Likeness) : Bool :=
  7 * l.den ≤ 10 * l.num

/-- Not more alike than `k`. -/
def Likeness.atMost (l k : Likeness) : Bool :=
  l.num * k.den ≤ k.num * l.den

/-- The words that are close to `s`, the closest last. -/
def closeWords (s : String) (words : List String) : List String :=
  let close := (words.map fun w => (likeness s w, w)).filter (·.1.isClose)
  (close.mergeSort fun x y => x.1.atMost y.1).map (·.2)

end StubHttp.Text
