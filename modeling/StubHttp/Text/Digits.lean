/-!
# Digits

The numbers that digits stand for.
-/

namespace StubHttp.Text

def digitValue (c : Char) : Nat :=
  c.toNat - 0x30

/-- The value of a hexadecimal digit in either case. -/
def hexValue? (c : Char) : Option Nat :=
  if '0' ≤ c ∧ c ≤ '9' then some (c.toNat - 0x30)
  else if 'a' ≤ c ∧ c ≤ 'f' then some (c.toNat - 0x61 + 10)
  else if 'A' ≤ c ∧ c ≤ 'F' then some (c.toNat - 0x41 + 10)
  else none

end StubHttp.Text
