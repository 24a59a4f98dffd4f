/-!
# What is wrong with a JSON text, and where

A reader that gives up says what is wrong and at what text it stood: the part
of the input it has not read yet, and how many bytes of that part it had
already looked past. Where that is in the whole input is worked out once, at
the end (`Fault.locate`): lines count from one, columns count the bytes of
their line.
-/

namespace StubHttp.Json

/-! ## Positions -/

structure Position where
  line : Nat
  column : Nat
  deriving DecidableEq

def byteCount (cs : List Char) : Nat :=
  cs.foldl (fun n c => n + c.utf8Size) 0

/-- The position after the first `bytes` bytes of a text that starts at `p`. A count that ends
inside a character counts the bytes of it that are covered. -/
def Position.advance (p : Position) : List Char → Nat → Position
  | [], _ => p
  | c :: cs, bytes =>
    if bytes = 0 then p
    else if c = '\n' then Position.advance ⟨p.line + 1, 0⟩ cs (bytes - 1)
    else Position.advance ⟨p.line, p.column + min bytes c.utf8Size⟩ cs (bytes - c.utf8Size)

/-! ## Faults -/

/-- A problem found with `rest` still to read, `seen` bytes of which were looked past. -/
structure Fault (π : Type) where
  problem : π
  rest : List Char
  seen : Nat

/-- A problem with what has been read up to here. -/
def Fault.here {π : Type} (problem : π) (rest : List Char) : Fault π :=
  ⟨problem, rest, 0⟩

/-- A problem with the next byte, which counts as seen. At the end of the text nothing is. -/
def Fault.next {π : Type} (problem : π) (rest : List Char) : Fault π :=
  ⟨problem, rest, if rest.isEmpty then 0 else 1⟩

def Fault.map {π ρ : Type} (f : π → ρ) (fault : Fault π) : Fault ρ :=
  ⟨f fault.problem, fault.rest, fault.seen⟩

/-- A problem and its position in the whole text. -/
structure Located (π : Type) where
  problem : π
  position : Position

def Fault.locate {π : Type} (text : List Char) (fault : Fault π) : Located π :=
  let bytes := byteCount text - byteCount fault.rest + fault.seen
  ⟨fault.problem, Position.advance ⟨1, 0⟩ text bytes⟩

/-- The wording of a problem with its position after it. -/
def Located.message {π : Type} (wording : π → String) (found : Located π) : String :=
  wording found.problem ++ " at line " ++ toString found.position.line
    ++ " column " ++ toString found.position.column

/-! ## Problems of form -/

/-- The ways in which a text fails to be JSON, or to be JSON that can be held. -/
inductive Problem where
  | endInValue
  | endInList
  | endInObject
  | endInString
  | expectedValue
  | expectedIdent
  | expectedColon
  | expectedListEnd
  | expectedObjectEnd
  | keyNotString
  | trailingComma
  | trailingCharacters
  | invalidNumber
  | numberOutOfRange
  | invalidEscape
  | loneSurrogate
  | unfinishedPair
  | controlCharacter
  | tooDeep
  deriving DecidableEq

def Problem.message : Problem → String
  | .endInValue => "EOF while parsing a value"
  | .endInList => "EOF while parsing a list"
  | .endInObject => "EOF while parsing an object"
  | .endInString => "EOF while parsing a string"
  | .expectedValue => "expected value"
  | .expectedIdent => "expected ident"
  | .expectedColon => "expected `:`"
  | .expectedListEnd => "expected `,` or `]`"
  | .expectedObjectEnd => "expected `,` or `\x7d`"
  | .keyNotString => "key must be a string"
  | .trailingComma => "trailing comma"
  | .trailingCharacters => "trailing characters"
  | .invalidNumber => "invalid number"
  | .numberOutOfRange => "number out of range"
  | .invalidEscape => "invalid escape"
  | .loneSurrogate => "lone leading surrogate in hex escape"
  | .unfinishedPair => "unexpected end of hex escape"
  | .controlCharacter =>
    "control character (\\u0000-\\u001F) found while parsing a string"
  | .tooDeep => "recursion limit exceeded"

/-- What a reader gives, unless it gives up. A reader for the front of a text gives its result
together with what is left of the text. -/
abbrev Attempt := Except (Fault Problem)

end StubHttp.Json
