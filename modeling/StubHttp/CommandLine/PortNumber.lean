import StubHttp.Text.Digits

/-!
# Port numbers on the command line

A port is written as an integer, with a sign if one likes. The text is read as
an integer of 64 bits first, giving up at the first character that does not fit
it, and only then held against the range of ports.
-/

namespace StubHttp.CommandLine

inductive PortError where
  | empty
  | invalidDigit
  | tooLarge
  | tooSmall
  | outOfRange (value : Int)
  deriving DecidableEq

def PortError.message : PortError → String
  | .empty => "cannot parse integer from empty string"
  | .invalidDigit => "invalid digit found in string"
  | .tooLarge => "number too large to fit in target type"
  | .tooSmall => "number too small to fit in target type"
  | .outOfRange value => toString value ++ " is not in 0..=65535"

/-- The magnitude of an integer that must not exceed `most`, after digits with value `n`. -/
def magnitude (most : Nat) (excess : PortError) (n : Nat) : List Char → Except PortError Nat
  | [] => .ok n
  | c :: cs =>
    if !c.isDigit then .error .invalidDigit
    else
      let next := n * 10 + Text.digitValue c
      if most < next then .error excess else magnitude most excess next cs

/-- The digits behind a sign: at least one. -/
def signed (negative : Bool) (cs : List Char) : Except PortError Int :=
  if cs.isEmpty then .error .invalidDigit
  else if negative then (magnitude (Nat.pow 2 63) .tooSmall 0 cs).map fun n => -(n : Int)
  else (magnitude (Nat.pow 2 63 - 1) .tooLarge 0 cs).map fun n => (n : Int)

/-- An integer of 64 bits. -/
def integer : List Char → Except PortError Int
  | [] => .error .empty
  | '+' :: cs => signed false cs
  | '-' :: cs => signed true cs
  | cs => signed false cs

def portNumber (s : String) : Except PortError UInt16 := do
  let n ← integer s.toList
  if 0 ≤ n ∧ n ≤ 65535 then return n.toNat.toUInt16
  else throw (.outOfRange n)

end StubHttp.CommandLine
