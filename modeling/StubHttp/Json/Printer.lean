import StubHttp.Json.Value
import StubHttp.Number.Shortest

/-!
# Compact JSON text

Values are written with nothing between their tokens. In a string only the
quote, the backslash and the characters below U+0020 are escaped
(`escapeChar`), so a written string ends at its first unescaped quote, whatever
it holds. Integers are written in full. Doubles always show a point or an
exponent (`Binary64.text`), so that no double is written like an integer.
-/

namespace StubHttp.Json

/-! ## Strings -/

/-- The lower-case hexadecimal digit of a number below 16. -/
def hexDigit (n : Nat) : Char :=
  Nat.digitChar (n % 16)

/-- One character as it stands inside a string literal. -/
def escapeChar (c : Char) : List Char :=
  if c = '"' then ['\\', '"']
  else if c = '\\' then ['\\', '\\']
  else if c = '\x08' then ['\\', 'b']
  else if c = '\t' then ['\\', 't']
  else if c = '\n' then ['\\', 'n']
  else if c = '\x0c' then ['\\', 'f']
  else if c = '\r' then ['\\', 'r']
  else if c.toNat < 0x20 then ['\\', 'u', '0', '0', hexDigit (c.toNat / 16), hexDigit c.toNat]
  else [c]

def quote (s : List Char) : List Char :=
  '"' :: s.flatMap escapeChar ++ ['"']

/-! ## Numbers -/

def integerText (i : Int) : List Char :=
  match i with
  | .ofNat n => Nat.toDigits 10 n
  | .negSucc n => '-' :: Nat.toDigits 10 (n + 1)

/-- Decimal digits `ds` scaled by `10 ^ p`. Magnitudes from `1e-5` to below `1e16` are written
positionally, with a digit on either side of the point; others as `d.ddd` with a signed
exponent. -/
def layOut (ds : List Char) (p : Int) : List Char :=
  let point := ds.length + p
  if 0 ≤ p ∧ point ≤ 16 then ds ++ List.replicate p.toNat '0' ++ ['.', '0']
  else if 0 < point ∧ point ≤ 16 then
    ds.take point.toNat ++ '.' :: ds.drop point.toNat
  else if -5 < point ∧ point ≤ 0 then '0' :: '.' :: List.replicate (-point).toNat '0' ++ ds
  else
    let fraction := if ds.length ≤ 1 then [] else '.' :: ds.drop 1
    let sign := if point ≤ 0 then '-' else '+'
    ds.take 1 ++ fraction ++ 'e' :: sign :: Nat.toDigits 10 (point - 1).natAbs

def magnitudeText (x : Binary64) : List Char :=
  if x.isZero then ['0', '.', '0']
  else layOut (Nat.toDigits 10 x.shortest.1) x.shortest.2

def doubleText (x : Binary64) : List Char :=
  if x.negative then '-' :: magnitudeText x else magnitudeText x

def Number.text : Number → List Char
  | .integer i => integerText i
  | .double x => doubleText x

/-! ## Values -/

mutual

def Value.text : Value → List Char
  | .null => ['n', 'u', 'l', 'l']
  | .boolean true => ['t', 'r', 'u', 'e']
  | .boolean false => ['f', 'a', 'l', 's', 'e']
  | .number n => n.text
  | .string s => quote s.toList
  | .array items => '[' :: itemsText items ++ [']']
  | .object members => '\x7b' :: membersText members ++ ['\x7d']

def itemsText : List Value → List Char
  | [] => []
  | [v] => v.text
  | v :: w :: rest => v.text ++ ',' :: itemsText (w :: rest)

def membersText : List (String × Value) → List Char
  | [] => []
  | [(n, v)] => quote n.toList ++ ':' :: v.text
  | (n, v) :: m :: rest => quote n.toList ++ ':' :: v.text ++ ',' :: membersText (m :: rest)

end

def Value.print (v : Value) : String :=
  String.ofList v.text

/-! ## Maps with keys of any kind -/

/-- What a map cannot be written for. -/
inductive EncodeError where
  | keyNotString
  deriving DecidableEq

def EncodeError.message : EncodeError → String
  | .keyNotString => "key must be a string"

/-- The member name that stands for a key: a string itself, and the text of a boolean or a
number. -/
def Value.keyText? : Value → Option String
  | .string s => some s
  | .boolean true => some "true"
  | .boolean false => some "false"
  | .number n => some (String.ofList n.text)
  | .null | .array _ | .object _ => none

/-- The object with these pairs in their order, duplicates kept. -/
def Value.ofPairs (pairs : List (Value × Value)) : Except EncodeError Value := do
  let members ← pairs.mapM fun (k, v) =>
    match k.keyText? with
    | some name => .ok (name, v)
    | none => .error .keyNotString
  return .object members

end StubHttp.Json
