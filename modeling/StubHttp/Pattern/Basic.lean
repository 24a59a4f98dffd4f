import StubHttp.Text.Digits
import StubHttp.Text.WhiteSpace

/-!
# Patterns: flags, blanks and escapes

A pattern is a regular expression. This library does not match with patterns;
it decides whether a text is one that can be compiled (`Pattern.isValid`).

Patterns know no tables of characters. What would need one is refused as long
as whole characters are matched: the classes of digits, blanks and word
characters, the edges of words, and letters in either case. Once bytes are
matched instead, all of these are about ASCII and need no table; but then
nothing may match a single byte beyond ASCII, for it could split a character.
-/

namespace StubHttp.Pattern

/-! ## Flags -/

/-- The flags that decide what may be written. -/
structure Flags where
  /-- Letters match in either case. -/
  eitherCase : Bool
  /-- Whole characters are matched, not bytes. -/
  unicode : Bool
  /-- Blanks and comments in the pattern mean nothing. -/
  verbose : Bool
  deriving DecidableEq

namespace Flags

def default : Flags :=
  ⟨false, true, false⟩

/-- The letters of flags, and the mark behind which flags are switched off. -/
def letters : List Char := ['i', 'm', 's', 'U', 'u', 'R', 'x', '-']

/-- The flags after a word that switches some on or off; each may be named once. -/
def switch? (f : Flags) (word : List Char) : Option Flags :=
  if word.all (· ∈ letters) ∧ word.Nodup ∧ word.getLast? ≠ some '-' then
    let on := word.takeWhile (· ≠ '-')
    let set := fun (letter : Char) (before : Bool) =>
      if letter ∈ on then true else if letter ∈ word then false else before
    some ⟨set 'i' f.eitherCase, set 'u' f.unicode, set 'x' f.verbose⟩
  else none

/-- Whether a character stands for itself; `isByte` says that it was given as a byte. -/
def admitChar (f : Flags) (c : Char) (isByte : Bool) : Bool :=
  if f.unicode then !f.eitherCase else !isByte || c.toNat < 0x80

def admitMember (f : Flags) (c : Char) : Bool :=
  if f.unicode then !f.eitherCase else c.toNat < 0x80

/-- Whether a class of characters may be used. Its complement reaches beyond ASCII. -/
def admitClass (f : Flags) (isComplement : Bool) : Bool :=
  !f.unicode && !isComplement

/-! ## Blanks -/

/-- What follows blanks and comments. A comment goes from a number sign to the end of the line. -/
def skipFrom : (inComment : Bool) → List Char → List Char
  | _, [] => []
  | true, c :: cs => skipFrom (c ≠ '\n') cs
  | false, c :: cs =>
    if c = '#' then skipFrom true cs
    else if Text.isWhiteSpace c then skipFrom false cs
    else c :: cs

/-- What follows, without the blanks and comments that mean nothing. -/
def skip (f : Flags) (cs : List Char) : List Char :=
  if f.verbose then skipFrom false cs else cs

end Flags

/-! ## Escapes -/

/-- What a backslash and the characters behind it stand for. -/
inductive Escape where
  | char (c : Char) (isByte : Bool)
  /-- Digits, blanks or word characters, or all others. -/
  | class (isComplement : Bool)
  /-- An edge of a word, or a place that is none. -/
  | wordEdge
  /-- The beginning or the end of the text. -/
  | textEdge

/-- A number of `count` hexadecimal digits behind the digits with value `n`. -/
def hexNumber? (f : Flags) : (count : Nat) → (n : Nat) → List Char → Option (Nat × List Char)
  | 0, n, cs => some (n, cs)
  | count + 1, n, cs =>
    match f.skip cs with
    | [] => none
    | c :: cs =>
      match Text.hexValue? c with
      | some digit => hexNumber? f count (16 * n + digit) cs
      | none => none

/-- A character by its number in `count` hexadecimal digits. -/
def numbered? (f : Flags) (count : Nat) (cs : List Char) : Option (Escape × List Char) :=
  match hexNumber? f count 0 cs with
  | some (n, rest) => if n.isValidChar then some (.char (Char.ofNat n) (count = 2), rest) else none
  | none => none

/-- What the characters behind a backslash stand for, and what follows them. Letters and digits
without a meaning are refused, and so are properties of characters, which would need tables. -/
def escape? (f : Flags) : List Char → Option (Escape × List Char)
  | [] => none
  | c :: cs =>
    match c with
    | 'x' => numbered? f 2 cs
    | 'u' => numbered? f 4 cs
    | 'U' => numbered? f 8 cs
    | 'd' | 's' | 'w' => some (.class false, cs)
    | 'D' | 'S' | 'W' => some (.class true, cs)
    | 'b' | 'B' | '<' | '>' => some (.wordEdge, cs)
    | 'A' | 'z' => some (.textEdge, cs)
    | 'a' => some (.char '\x07' false, cs)
    | 't' => some (.char '\t' false, cs)
    | 'n' => some (.char '\n' false, cs)
    | 'v' => some (.char '\x0b' false, cs)
    | 'f' => some (.char '\x0c' false, cs)
    | 'r' => some (.char '\r' false, cs)
    | _ => if c.toNat < 0x80 ∧ !c.isAlphanum then some (.char c false, cs) else none

/-- Whether an escape may stand outside a set. -/
def Flags.admitEscape (f : Flags) : Escape → Bool
  | .char c isByte => f.admitChar c isByte
  | .class isComplement => f.admitClass isComplement
  | .wordEdge => !f.unicode
  | .textEdge => true

end StubHttp.Pattern
