/-!
# UTF-8 bytes

`encode` is the bytes of a text. `decode` reads bytes that need not be the
encoding of a text: where no character can be read, the longest piece that
could have begun one is given as U+FFFD, at least one byte. A place in a text
may be given by the number of bytes before it, unless it falls into a character
(`slice?`).
-/

namespace StubHttp.Text

def encode (s : String) : List UInt8 :=
  s.toList.flatMap String.utf8EncodeChar

/-! ## Places -/

def byteLength (cs : List Char) : Nat :=
  cs.foldl (fun n c => n + c.utf8Size) 0

/-- What follows the first `n` bytes. -/
def dropBytes? : (n : Nat) → List Char → Option (List Char)
  | 0, cs => some cs
  | _ + 1, [] => none
  | n + 1, c :: cs => if c.utf8Size ≤ n + 1 then dropBytes? (n + 1 - c.utf8Size) cs else none

/-- The characters in the first `n` bytes. -/
def takeBytes? : (n : Nat) → List Char → Option (List Char)
  | 0, _ => some []
  | _ + 1, [] => none
  | n + 1, c :: cs =>
    if c.utf8Size ≤ n + 1 then (takeBytes? (n + 1 - c.utf8Size) cs).map (c :: ·) else none

/-- The characters between two places. -/
def slice? (i j : Nat) (cs : List Char) : Option (List Char) :=
  (dropBytes? i cs).bind (takeBytes? (j - i))

/-! ## Reading bytes -/

/-- How many more bytes a first byte announces, the value of its own bits, and the bounds of the
byte that may follow it. -/
def announced? (b : UInt8) : Option (Nat × Nat × UInt8 × UInt8) :=
  let n := b.toNat
  if n < 0x80 then some (0, n, 0x80, 0xBF)
  else if 0xC2 ≤ n ∧ n ≤ 0xDF then some (1, n - 0xC0, 0x80, 0xBF)
  else if n = 0xE0 then some (2, 0, 0xA0, 0xBF)
  else if n = 0xED then some (2, 0xD, 0x80, 0x9F)
  else if 0xE1 ≤ n ∧ n ≤ 0xEF then some (2, n - 0xE0, 0x80, 0xBF)
  else if n = 0xF0 then some (3, 0, 0x90, 0xBF)
  else if 0xF1 ≤ n ∧ n ≤ 0xF3 then some (3, n - 0xF0, 0x80, 0xBF)
  else if n = 0xF4 then some (3, 4, 0x80, 0x8F)
  else none

/-- The value of a character of which `value` has been read and `more` bytes are missing, the
first of them within bounds; none if they do not all follow. Also what is left. -/
def complete : (more : Nat) → (value : Nat) → (low high : UInt8) → List UInt8 →
    Option Nat × List UInt8
  | 0, value, _, _, bytes => (some value, bytes)
  | _ + 1, _, _, _, [] => (none, [])
  | more + 1, value, low, high, b :: bytes =>
    if low ≤ b ∧ b ≤ high then complete more (value * 64 + (b.toNat - 0x80)) 0x80 0xBF bytes
    else (none, b :: bytes)

def replacement : Char := '\ufffd'

/-- The characters of at most `n` pieces. -/
def decodeWithin : Nat → List UInt8 → List Char
  | 0, _ => []
  | _, [] => []
  | n + 1, b :: bytes =>
    match announced? b with
    | none => replacement :: decodeWithin n bytes
    | some (more, value, low, high) =>
      match complete more value low high bytes with
      | (some c, rest) => Char.ofNat c :: decodeWithin n rest
      | (none, rest) => replacement :: decodeWithin n rest

def decode (bytes : List UInt8) : String :=
  String.ofList (decodeWithin bytes.length bytes)

end StubHttp.Text
