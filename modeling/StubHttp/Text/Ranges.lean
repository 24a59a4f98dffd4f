/-!
# Ranges of code points

A property of characters is tabulated as ranges, each given by its first and
last code point.
-/

namespace StubHttp.Text

/-- Whether a code point lies in one of the ranges of a table. -/
def inRanges (table : List (Nat × Nat)) (n : Nat) : Bool :=
  table.any fun (first, last) => first ≤ n && n ≤ last

end StubHttp.Text
