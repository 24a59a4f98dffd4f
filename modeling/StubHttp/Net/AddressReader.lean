import StubHttp.Net.Address
import StubHttp.Text.Digits

/-!
# Reading internet addresses

Every reader takes as much from the front of a text as belongs to it and
returns what is left; `Address.ofString?` wants nothing left. An IPv4 address
has four decimal numbers without leading zeros. An IPv6 address has eight
groups of one to four hexadecimal digits, or fewer and one `::` that stands for
at least one zero group; its last two groups may be written as an IPv4 address.
Zones, brackets and blanks are not part of an address.
-/

namespace StubHttp.Net

/-! ## IPv4 -/

/-- A number from 0 to 255 in at most three digits, without leading zeros. -/
def octet? (cs : List Char) : Option (UInt8 × List Char) :=
  let ds := cs.takeWhile Char.isDigit
  let n := Nat.ofDigitChars 10 ds 0
  if ds.isEmpty ∨ 3 < ds.length ∨ (1 < ds.length ∧ ds.head? = some '0') ∨ 255 < n then none
  else some (n.toUInt8, cs.drop ds.length)

/-- The given character in front of something else. -/
def after? {α : Type} (mark : Char) (reader : List Char → Option (α × List Char)) :
    List Char → Option (α × List Char)
  | [] => none
  | c :: cs => if c = mark then reader cs else none

def ipv4? (cs : List Char) : Option (IPv4 × List Char) := do
  let (a, cs) ← octet? cs
  let (b, cs) ← after? '.' octet? cs
  let (c, cs) ← after? '.' octet? cs
  let (d, cs) ← after? '.' octet? cs
  return (⟨a, b, c, d⟩, cs)

/-! ## IPv6 -/

/-- The number that hexadecimal digits write, after the digits with value `n`. -/
def hexNumber (n : Nat) (ds : List Char) : Nat :=
  ds.foldl (fun n c => n * 16 + (Text.hexValue? c).getD 0) n

def group? (cs : List Char) : Option (UInt16 × List Char) :=
  let ds := cs.takeWhile fun c => (Text.hexValue? c).isSome
  if ds.isEmpty ∨ 4 < ds.length then none
  else some ((hexNumber 0 ds).toUInt16, cs.drop ds.length)

/-- Something that stands at the start, or else behind a colon. -/
def inRow? {α : Type} (first : Bool) (reader : List Char → Option (α × List Char))
    (cs : List Char) : Option (α × List Char) :=
  if first then reader cs else after? ':' reader cs

/-- A row of groups, and whether an IPv4 address stands at its end. -/
structure Row where
  groups : List UInt16
  endsInIPv4 : Bool

/-- As many groups as there are, at most `room`, and what is left. An IPv4 address takes two. -/
def row : (room : Nat) → (first : Bool) → List Char → Row × List Char
  | 0, _, cs => (⟨[], false⟩, cs)
  | room + 1, first, cs =>
    match if 0 < room then inRow? first ipv4? cs else none with
    | some (ip, rest) => (⟨ip.groups, true⟩, rest)
    | none =>
      match inRow? first group? cs with
      | some (g, rest) =>
        let (more, left) := row room false rest
        (⟨g :: more.groups, more.endsInIPv4⟩, left)
      | none => (⟨[], false⟩, cs)

def IPv6.ofList? (groups : List UInt16) : Option IPv6 :=
  if h : groups.length = 8 then some ⟨groups, h⟩ else none

def ipv6? (cs : List Char) : Option (IPv6 × List Char) :=
  let (head, rest) := row 8 true cs
  if head.groups.length = 8 then (IPv6.ofList? head.groups).map (·, rest)
  else if head.endsInIPv4 then none
  else
    match rest with
    | ':' :: ':' :: rest =>
      let (tail, left) := row (7 - head.groups.length) true rest
      let zeros := List.replicate (8 - head.groups.length - tail.groups.length) 0
      (IPv6.ofList? (head.groups ++ zeros ++ tail.groups)).map (·, left)
    | _ => none

/-! ## Whole texts -/

/-- An address at the front of a text; one that begins like IPv4 is taken as that. -/
def address? (cs : List Char) : Option (Address × List Char) :=
  match ipv4? cs with
  | some (ip, rest) => some (.v4 ip, rest)
  | none => (ipv6? cs).map fun (ip, rest) => (.v6 ip, rest)

def Address.ofString? (s : String) : Option Address :=
  match address? s.toList with
  | some (ip, []) => some ip
  | _ => none

end StubHttp.Net
