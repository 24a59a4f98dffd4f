/-!
# Internet addresses and their text

An IPv4 address is written as four decimal numbers, an IPv6 address as eight
groups of hexadecimal digits, of which the first longest run of two or more
zero groups is left out (`IPv6.text`). An IPv6 address that stands for an IPv4
address ends in the text of that address.
-/

namespace StubHttp.Net

structure IPv4 where
  a : UInt8
  b : UInt8
  c : UInt8
  d : UInt8
  deriving DecidableEq

/-- Eight groups of sixteen bits, the most significant first. -/
structure IPv6 where
  groups : List UInt16
  size_eq : groups.length = 8
  deriving DecidableEq

inductive Address where
  | v4 (ip : IPv4)
  | v6 (ip : IPv6)
  deriving DecidableEq

/-! ## IPv4 text -/

def octetText (n : UInt8) : List Char :=
  Nat.toDigits 10 n.toNat

def IPv4.text (ip : IPv4) : List Char :=
  octetText ip.a ++ '.' :: octetText ip.b ++ '.' :: octetText ip.c ++ '.' :: octetText ip.d

def IPv4.any : IPv4 := ⟨0, 0, 0, 0⟩

def IPv4.loopback : IPv4 := ⟨127, 0, 0, 1⟩

/-! ## IPv6 text -/

/-- The two groups that hold an IPv4 address. -/
def IPv4.groups (ip : IPv4) : List UInt16 :=
  [ip.a.toUInt16 * 256 + ip.b.toUInt16, ip.c.toUInt16 * 256 + ip.d.toUInt16]

/-- The IPv4 address that two groups hold. -/
def IPv4.ofGroups (high low : UInt16) : IPv4 :=
  ⟨(high / 256).toUInt8, high.toUInt8, (low / 256).toUInt8, low.toUInt8⟩

/-- The IPv4 address that an IPv6 address stands for, if it does. -/
def IPv6.mapped? (ip : IPv6) : Option IPv4 :=
  match ip.groups with
  | [0, 0, 0, 0, 0, 0xffff, high, low] => some (IPv4.ofGroups high low)
  | _ => none

def groupText (n : UInt16) : List Char :=
  Nat.toDigits 16 n.toNat

def groupsText (gs : List UInt16) : List Char :=
  [':'].intercalate (gs.map groupText)

def zeroRun (gs : List UInt16) : Nat :=
  (gs.takeWhile (· = 0)).length

/-- The start and length of the first longest run of zero groups. -/
def longestZeros : List UInt16 → Nat × Nat
  | [] => (0, 0)
  | g :: gs =>
    let here := zeroRun (g :: gs)
    let (start, length) := longestZeros gs
    if length ≤ here then (0, here) else (start + 1, length)

def IPv6.text (ip : IPv6) : List Char :=
  match ip.mapped? with
  | some v4 => [':', ':', 'f', 'f', 'f', 'f', ':'] ++ v4.text
  | none =>
    let (start, length) := longestZeros ip.groups
    if 2 ≤ length then
      groupsText (ip.groups.take start) ++ ':' :: ':' ::
        groupsText (ip.groups.drop (start + length))
    else groupsText ip.groups

def IPv6.any : IPv6 := ⟨List.replicate 8 0, rfl⟩

/-! ## Either kind -/

def Address.text : Address → List Char
  | .v4 ip => ip.text
  | .v6 ip => ip.text

def Address.print (ip : Address) : String :=
  String.ofList ip.text

/-- The version of the protocol that an address belongs to. -/
def Address.version : Address → Nat
  | .v4 _ => 4
  | .v6 _ => 6

end StubHttp.Net
