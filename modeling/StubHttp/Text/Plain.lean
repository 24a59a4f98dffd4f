/-!
# Text without control sequences

What is left of a text when everything is taken out that a terminal would obey
instead of showing: control characters other than white space, and the escape
sequences with all that belongs to them. Text that comes from outside can then
be repeated in a report without doing anything there.

White space is obeyed even in the middle of most sequences, and is shown. The
text behind it is shown as well, up to the next control character; from there
on the sequence may go on where it was interrupted, or be over (`plain`).
-/

namespace StubHttp.Text

/-- Where a terminal stands inside a control sequence. -/
inductive Control where
  /-- Not inside any. -/
  | ground
  /-- Behind an escape character. -/
  | escape
  /-- Behind an escape character and characters that qualify what follows. -/
  | qualified
  /-- Among the parameters of a sequence that a letter or a mark ends. -/
  | parameters
  /-- In a string for the terminal that a bell ends. -/
  | command
  /-- At the beginning of a sequence for a device. -/
  | device
  /-- Among the parameters of a sequence for a device. -/
  | deviceParameters
  /-- Behind characters that qualify a sequence for a device. -/
  | deviceQualified
  /-- In a string that only another control character ends. -/
  | string
  deriving DecidableEq

namespace Control

def isSpace (n : Nat) : Bool :=
  n == 0x09 || n == 0x0A || n == 0x0C || n == 0x0D

/-- Where the characters lead that are obeyed everywhere: the escape character and those that
cancel a sequence. -/
def anywhere? (n : Nat) : Option Control :=
  if n = 0x1B then some .escape
  else if n = 0x18 ∨ n = 0x1A then some .ground
  else none

/-- Whether an ASCII character is shown. -/
def shows (place : Control) (n : Nat) : Bool :=
  match place with
  | .ground => 0x20 ≤ n && n < 0x7F || isSpace n
  | .escape | .qualified | .parameters => isSpace n
  | _ => false

/-- The place behind an ASCII character that is neither shown nor obeyed everywhere. Other control
characters change no place, but for the bell. -/
def next (place : Control) (n : Nat) : Control :=
  if n < 0x20 ∨ n = 0x7F then
    if place = .command ∧ n = 0x07 then .ground else place
  else
    match place with
    | .ground => .ground
    | .escape =>
      if n < 0x30 then .qualified
      else if n = 0x5B then .parameters
      else if n = 0x5D then .command
      else if n = 0x50 then .device
      else if n = 0x58 ∨ n = 0x5E ∨ n = 0x5F then .string
      else .ground
    | .qualified => if n < 0x30 then .qualified else .ground
    | .parameters => if n < 0x40 then .parameters else .ground
    | .command => .command
    | .device =>
      if n < 0x30 then .deviceQualified
      else if n = 0x3A ∨ 0x40 ≤ n then .string
      else .deviceParameters
    | .deviceParameters =>
      if n < 0x30 then .deviceQualified
      else if n < 0x3A ∨ n = 0x3B then .deviceParameters
      else .string
    | .deviceQualified => if n < 0x30 then .deviceQualified else .string
    | .string => .string

/-- The place behind a character that lies outside ASCII and is not shown. Its bytes are looked at
one by one, and one of them ends a string. -/
def skip (place : Control) (c : Char) : Control :=
  if place = .string ∧ 0x9C ∈ String.utf8EncodeChar c then .ground else place

end Control

/-- The characters that are shown from a place on, `showing` being whether the last one was. If
a sequence `resumes`, its place is kept while text that interrupts it is shown. -/
def shown (resumes : Bool) : (place : Control) → (showing : Bool) → List Char → List Char
  | _, _, [] => []
  | place, showing, c :: cs =>
    let here := if showing then .ground else place
    if 0x80 ≤ c.toNat then
      if here = .ground then c :: shown resumes .ground true cs
      else shown resumes (place.skip c) false cs
    else
      match Control.anywhere? c.toNat with
      | some next => shown resumes next false cs
      | none =>
        if here.shows c.toNat then c :: shown resumes (if resumes then place else .ground) true cs
        else if showing then shown resumes place false cs
        else shown resumes (place.next c.toNat) false cs

/-- What a text shows. A sequence that white space interrupts either `resumes` behind the text
that is shown, or is over. -/
def plain (resumes : Bool) (s : String) : String :=
  String.ofList (shown resumes .ground false s.toList)

def firstLine (s : String) : String :=
  let line := s.toList.takeWhile (· ≠ '\n')
  let isEnded := line.length < s.length
  String.ofList (if isEnded ∧ line.getLast? = some '\r' then line.dropLast else line)

end StubHttp.Text
