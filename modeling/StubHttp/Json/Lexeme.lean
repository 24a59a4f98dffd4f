import StubHttp.Json.Fault
import StubHttp.Json.Value
import StubHttp.Text.Digits

/-!
# The lexemes of JSON

Blanks, words, strings and numbers, each read from the front of a text. Every
reader takes as much as belongs to the lexeme and returns what is left.

Strings and numbers are read in two ways. `string` and `number` give the value;
`skipString` and `skipNumber` pass over a literal whose value is not wanted and
ask less of it: surrogate escapes need not be paired, and no number is too
large.
-/

namespace StubHttp.Json

/-! ## Blanks and words -/

def isBlank (c : Char) : Bool :=
  c == ' ' || c == '\n' || c == '\t' || c == '\r'

def skipBlanks (cs : List Char) : List Char :=
  cs.dropWhile isBlank

/-- The rest of a word whose first letter has been read. -/
def word : List Char → List Char → Attempt (List Char)
  | [], cs => .ok cs
  | _ :: _, [] => .error (.here .endInValue [])
  | k :: ks, c :: cs => if c = k then word ks cs else .error ⟨.expectedIdent, c :: cs, 1⟩

/-! ## Escapes -/

/-- The number written by four hexadecimal digits. The four bytes are taken at once, so a bad
digit is noticed only after all of them. -/
def hexFour (cs : List Char) : Attempt (Nat × List Char) :=
  if byteCount (cs.take 4) < 4 then .error (.here .endInString [])
  else
    match cs with
    | a :: b :: c :: d :: rest =>
      match Text.hexValue? a, Text.hexValue? b, Text.hexValue? c, Text.hexValue? d with
      | some a, some b, some c, some d => .ok (((a * 16 + b) * 16 + c) * 16 + d, rest)
      | _, _, _, _ => .error ⟨.invalidEscape, cs, 4⟩
    | _ => .error ⟨.invalidEscape, cs, 4⟩

def isLeadingSurrogate (n : Nat) : Bool :=
  0xD800 ≤ n && n ≤ 0xDBFF

def isTrailingSurrogate (n : Nat) : Bool :=
  0xDC00 ≤ n && n ≤ 0xDFFF

/-- The second half of a surrogate pair, which has to follow at once. -/
def trailingHalf : List Char → Attempt (Nat × List Char)
  | [] => .error (.here .endInString [])
  | '\\' :: rest =>
    match rest with
    | [] => .error (.here .endInString [])
    | 'u' :: digits => do
      let (n, left) ← hexFour digits
      if isTrailingSurrogate n then return (n, left)
      else throw (.here .loneSurrogate left)
    | _ => .error ⟨.unfinishedPair, rest, 1⟩
  | rest => .error ⟨.unfinishedPair, rest, 1⟩

/-- What a backslash and `u` have announced: a character of the basic plane, or a surrogate
pair. -/
def unicodeEscape (cs : List Char) : Attempt (Char × List Char) := do
  let (n, rest) ← hexFour cs
  if isTrailingSurrogate n then throw (.here .loneSurrogate rest)
  else if isLeadingSurrogate n then
    let (m, left) ← trailingHalf rest
    return (Char.ofNat (0x10000 + (n - 0xD800) * 0x400 + (m - 0xDC00)), left)
  else return (Char.ofNat n, rest)

def simpleEscape? (c : Char) : Option Char :=
  if c = '"' ∨ c = '\\' ∨ c = '/' then some c
  else if c = 'b' then some '\x08'
  else if c = 'f' then some '\x0c'
  else if c = 'n' then some '\n'
  else if c = 'r' then some '\r'
  else if c = 't' then some '\t'
  else none

/-- The character that a backslash has announced. -/
def escape : List Char → Attempt (Char × List Char)
  | [] => .error (.here .endInString [])
  | c :: cs =>
    if c = 'u' then unicodeEscape cs
    else
      match simpleEscape? c with
      | some d => .ok (d, cs)
      | none => .error ⟨.invalidEscape, c :: cs, 1⟩

/-- Passes over what a backslash has announced, whatever number a `u` is followed by. -/
def skipEscape : List Char → Attempt (List Char)
  | [] => .error (.here .endInString [])
  | c :: cs =>
    if c = 'u' then do
      let (_, rest) ← hexFour cs
      return rest
    else if (simpleEscape? c).isSome then .ok cs
    else .error ⟨.invalidEscape, c :: cs, 1⟩

/-! ## Strings

Both readers start after the opening quote and take the closing one. They take a text as a bound
on the characters of the literal; no literal is longer than the text it is read from. -/

def isControl (c : Char) : Bool :=
  c.toNat < 0x20

def stringWithin : List Char → List Char → Attempt (List Char × List Char)
  | [], _ => .error (.here .endInString [])
  | _ :: _, [] => .error (.here .endInString [])
  | _ :: bound, c :: cs =>
    if c = '"' then .ok ([], cs)
    else if c = '\\' then do
      let (d, rest) ← escape cs
      let (ds, left) ← stringWithin bound rest
      return (d :: ds, left)
    else if isControl c then .error ⟨.controlCharacter, c :: cs, 1⟩
    else do
      let (ds, left) ← stringWithin bound cs
      return (c :: ds, left)

/-- A string, its opening quote already read. -/
def string (cs : List Char) : Attempt (List Char × List Char) :=
  stringWithin cs cs

def skipStringWithin : List Char → List Char → Attempt (List Char)
  | [], _ => .error (.here .endInString [])
  | _ :: _, [] => .error (.here .endInString [])
  | _ :: bound, c :: cs =>
    if c = '"' then .ok cs
    else if c = '\\' then do
      let rest ← skipEscape cs
      skipStringWithin bound rest
    else if isControl c then .error (.here .controlCharacter (c :: cs))
    else skipStringWithin bound cs

/-- Passes over a string whose opening quote has been read. -/
def skipString (cs : List Char) : Attempt (List Char) :=
  skipStringWithin cs cs

/-! ## Numbers -/

def digits (cs : List Char) : List Char × List Char :=
  (cs.takeWhile Char.isDigit, cs.dropWhile Char.isDigit)

/-- Appends digits to a significand for as long as it fits 64 bits. The result is the
significand and the digits that no longer fit. -/
def collect (significand : Nat) : List Char → Nat × List Char
  | [] => (significand, [])
  | c :: cs =>
    let next := significand * 10 + Text.digitValue c
    if next < UInt64.size then collect next cs else (significand, c :: cs)

/-- The digits of an exponent, added to the value `e` of those before. Of a value that leaves 31
bits only what follows the digit at which it does is told. -/
def exponentDigits (e : Nat) : List Char → Except (List Char) (Nat × List Char)
  | [] => .ok (e, [])
  | c :: cs =>
    if c.isDigit then
      let next := e * 10 + Text.digitValue c
      if next < Nat.pow 2 31 then exponentDigits next cs else .error cs
    else .ok (e, c :: cs)

/-- The double `± significand * 10 ^ e`. -/
def scaled (negative : Bool) (significand : Nat) (e : Int) (rest : List Char) :
    Attempt (Number × List Char) :=
  let x? := (Binary64.ofNat? negative significand).bind (·.scaleTen? e)
  x?.elim (.error (.here .numberOutOfRange rest)) fun x => .ok (.double x, rest)

def atExponent : List Char → Bool
  | c :: _ => c == 'e' || c == 'E'
  | [] => false

/-- The sign of an exponent, `+` if none is written. -/
def exponentSign : List Char → Bool × List Char
  | '+' :: cs => (false, cs)
  | '-' :: cs => (true, cs)
  | cs => (false, cs)

/-- An exponent, after its `e`, to a significand already scaled by `10 ^ e`. -/
def exponent (negative : Bool) (significand : Nat) (e : Int) (cs : List Char) :
    Attempt (Number × List Char) :=
  let (down, cs) := exponentSign cs
  match cs with
  | [] => .error (.here .endInValue [])
  | c :: _ =>
    if !c.isDigit then .error ⟨.invalidNumber, cs, 1⟩
    else
      match exponentDigits 0 cs with
      | .ok (n, rest) => scaled negative significand (if down then e - n else e + n) rest
      | .error rest =>
        if significand ≠ 0 ∧ ¬ down then .error (.here .numberOutOfRange rest)
        else .ok (.double (.zero negative), (digits rest).2)

/-- What follows the fraction of a number, or its integer part if it has no fraction. -/
def afterFraction (negative : Bool) (significand : Nat) (e : Int) (cs : List Char) :
    Attempt (Number × List Char) :=
  if atExponent cs then exponent negative significand e (cs.drop 1)
  else scaled negative significand e cs

/-- A fraction, after its point. Of its digits those are used that still fit the significand. -/
def fraction (negative : Bool) (significand : Nat) (e : Int) (cs : List Char) :
    Attempt (Number × List Char) :=
  let (ds, rest) := digits cs
  if ds.isEmpty then
    if rest.isEmpty then .error (.here .endInValue [])
    else .error (.next .invalidNumber rest)
  else
    let (significand, unused) := collect significand ds
    afterFraction negative significand (e - (ds.length - unused.length : Nat)) rest

/-- The integer of a number without fraction and exponent, as far as it is kept as one: from
`-2 ^ 63` to `2 ^ 64 - 1`, and not a negative zero. -/
def wholeNumber (negative : Bool) (n : Nat) (rest : List Char) : Attempt (Number × List Char) :=
  if !negative then .ok (.integer n, rest)
  else if 0 < n ∧ n ≤ Nat.pow 2 63 then .ok (.integer (-n), rest)
  else scaled true n 0 rest

/-- What follows the integer part `ds` of a number. Digits that do not fit 64 bits count in the
exponent. -/
def afterInteger (negative : Bool) (ds rest : List Char) : Attempt (Number × List Char) :=
  let (significand, unused) := collect 0 ds
  let e : Int := unused.length
  match rest with
  | '.' :: cs => fraction negative significand e cs
  | _ =>
    if atExponent rest then exponent negative significand e (rest.drop 1)
    else if unused.isEmpty then wholeNumber negative significand rest
    else scaled negative significand e rest

/-- A number, its minus sign already read if it has one. -/
def number (negative : Bool) (cs : List Char) : Attempt (Number × List Char) :=
  match cs with
  | [] => .error (.here .endInValue [])
  | '0' :: rest =>
    match rest with
    | c :: _ => if c.isDigit then .error (.next .invalidNumber rest)
      else afterInteger negative ['0'] rest
    | [] => afterInteger negative ['0'] []
  | c :: _ =>
    if c.isDigit then
      let (ds, rest) := digits cs
      afterInteger negative ds rest
    else .error ⟨.invalidNumber, cs, 1⟩

/-! ## Numbers passed over -/

/-- At least one digit, as the exponent of a number passed over. -/
def skipExponent (cs : List Char) : Attempt (List Char) :=
  let cs := (exponentSign cs).2
  match cs with
  | [] => .error (.here .invalidNumber [])
  | c :: rest => if c.isDigit then .ok (digits rest).2 else .error ⟨.invalidNumber, cs, 1⟩

/-- What follows the integer part of a number passed over. -/
def skipAfterInteger (cs : List Char) : Attempt (List Char) :=
  match cs with
  | '.' :: rest =>
    let (ds, left) := digits rest
    if ds.isEmpty then .error (.next .invalidNumber left)
    else if atExponent left then skipExponent (left.drop 1)
    else .ok left
  | _ => if atExponent cs then skipExponent (cs.drop 1) else .ok cs

/-- Passes over a number whose minus sign has been read, if it has one. -/
def skipNumber (cs : List Char) : Attempt (List Char) :=
  match cs with
  | [] => .error (.here .invalidNumber [])
  | '0' :: rest =>
    match rest with
    | c :: _ => if c.isDigit then .error (.next .invalidNumber rest) else skipAfterInteger rest
    | [] => .ok []
  | c :: _ =>
    if c.isDigit then skipAfterInteger (digits cs).2 else .error ⟨.invalidNumber, cs, 1⟩

end StubHttp.Json
