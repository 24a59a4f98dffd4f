import StubHttp.Net.AddressReader

/-!
# Endpoints

An endpoint is an address with a port, the place a server listens on. In text
an IPv6 address stands in brackets, followed inside them by the number of its
zone if it has one.
-/

namespace StubHttp.Net

inductive Endpoint where
  | v4 (ip : IPv4) (port : UInt16)
  | v6 (ip : IPv6) (port : UInt16) (zone : UInt32)
  deriving DecidableEq

namespace Endpoint

def ofAddress (ip : Address) (port : UInt16) : Endpoint :=
  match ip with
  | .v4 ip => .v4 ip port
  | .v6 ip => .v6 ip port 0

def address : Endpoint → Address
  | .v4 ip _ => .v4 ip
  | .v6 ip _ _ => .v6 ip

def port : Endpoint → UInt16
  | .v4 _ port => port
  | .v6 _ port _ => port

def withPort (e : Endpoint) (port : UInt16) : Endpoint :=
  match e with
  | .v4 ip _ => .v4 ip port
  | .v6 ip _ zone => .v6 ip port zone

/-! ## Text -/

def numberText (n : Nat) : List Char :=
  Nat.toDigits 10 n

def text : Endpoint → List Char
  | .v4 ip port => ip.text ++ ':' :: numberText port.toNat
  | .v6 ip port zone =>
    let zoneText := if zone = 0 then [] else '%' :: numberText zone.toNat
    '[' :: ip.text ++ zoneText ++ ']' :: ':' :: numberText port.toNat

def print (e : Endpoint) : String :=
  String.ofList e.text

/-! ## Reading -/

/-- A decimal number below the given bound, leading zeros allowed. -/
def number? (bound : Nat) (cs : List Char) : Option (Nat × List Char) :=
  let ds := cs.takeWhile Char.isDigit
  let n := Nat.ofDigitChars 10 ds 0
  if ds.isEmpty ∨ bound ≤ n then none else some (n, cs.drop ds.length)

def port? (cs : List Char) : Option (UInt16 × List Char) :=
  (after? ':' (number? UInt16.size) cs).map fun (n, rest) => (n.toUInt16, rest)

/-- A zone behind its percent sign, zero if none is written. -/
def zone? : List Char → Option (UInt32 × List Char)
  | '%' :: cs => (number? UInt32.size cs).map fun (n, rest) => (n.toUInt32, rest)
  | cs => some (0, cs)

def endpoint? (cs : List Char) : Option (Endpoint × List Char) :=
  match cs with
  | '[' :: cs => do
    let (ip, cs) ← ipv6? cs
    let (zone, cs) ← zone? cs
    let (port, cs) ← after? ']' port? cs
    return (.v6 ip port zone, cs)
  | _ => do
    let (ip, cs) ← ipv4? cs
    let (port, cs) ← port? cs
    return (.v4 ip port, cs)

def ofString? (s : String) : Option Endpoint :=
  match endpoint? s.toList with
  | some (e, []) => some e
  | _ => none

end Endpoint

end StubHttp.Net
