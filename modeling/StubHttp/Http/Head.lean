import StubHttp.Http.Method

/-!
# Request heads

The head of a request is its request line and its header lines, up to an empty
line. `Head.read` takes a head from the front of what a client has sent. While
the text could still become a head by growing it is incomplete; once it could
not, it is malformed. Lines end in a line feed, with or without a carriage
return before it, and empty lines in front of a head are passed over.
-/

namespace StubHttp.Http

inductive Stop where
  | incomplete
  | malformed
  | tooManyHeaders
  deriving DecidableEq

inductive Version where
  | http10
  | http11
  deriving DecidableEq

def Version.name : Version → String
  | .http10 => "HTTP/1.0"
  | .http11 => "HTTP/1.1"

structure Head where
  method : Method
  uri : String
  version : Version
  headers : List (String × String)

/-! ## Characters and lines -/

/-- The characters of a URI, as far as the request line is concerned. -/
def isUriChar (c : Char) : Bool :=
  let n := c.toNat
  0x21 ≤ n && n ≠ 0x7F

def isValueChar (c : Char) : Bool :=
  let n := c.toNat
  n == 0x09 || (0x20 ≤ n && n ≠ 0x7F)

def expect : List Char → List Char → Except Stop (List Char)
  | [], cs => .ok cs
  | _ :: _, [] => .error .incomplete
  | w :: ws, c :: cs => if c = w then expect ws cs else .error .malformed

def endOfLine : List Char → Except Stop (List Char)
  | [] => .error .incomplete
  | c :: cs =>
    if c = '\n' then .ok cs
    else if c = '\r' then expect ['\n'] cs
    else .error .malformed

/-- A nonempty run of characters up to the mark that ends it. -/
def upTo (mark : Char) (belongs : Char → Bool) (cs : List Char) :
    Except Stop (List Char × List Char) :=
  let run := cs.takeWhile belongs
  match cs.dropWhile belongs with
  | [] => .error .incomplete
  | c :: rest => if run.isEmpty ∨ c ≠ mark then .error .malformed else .ok (run, rest)

def skipEmptyLines : List Char → Except Stop (List Char)
  | [] => .error .incomplete
  | '\n' :: cs => skipEmptyLines cs
  | '\r' :: '\n' :: cs => skipEmptyLines cs
  | ['\r'] => .error .incomplete
  | '\r' :: _ :: _ => .error .malformed
  | c :: cs => .ok (c :: cs)

/-! ## The request line -/

def readVersion (cs : List Char) : Except Stop (Version × List Char) := do
  match ← expect "HTTP/1.".toList cs with
  | [] => throw .incomplete
  | c :: rest =>
    if c = '1' then return (.http11, rest)
    else if c = '0' then return (.http10, rest)
    else throw .malformed

/-! ## Header lines -/

def isSpace (c : Char) : Bool :=
  c == ' ' || c == '\t'

def trimSpaces (cs : List Char) : List Char :=
  ((cs.dropWhile isSpace).reverse.dropWhile isSpace).reverse

/-- A header line: a name, a colon, and a value up to the end of the line. -/
def readHeader (cs : List Char) : Except Stop ((String × String) × List Char) := do
  let (name, cs) ← upTo ':' isTokenChar cs
  let value := cs.takeWhile isValueChar
  let rest ← endOfLine (cs.dropWhile isValueChar)
  return ((String.ofList name, String.ofList (trimSpaces value)), rest)

def maxHeaders : Nat := 100

/-- Header lines up to an empty line; the number is how many there may be. One more is too many as
soon as it begins. -/
def readHeaders : Nat → List Char → Except Stop (List (String × String) × List Char)
  | _, [] => .error .incomplete
  | n, c :: cs =>
    if c = '\r' ∨ c = '\n' then do return ([], ← endOfLine (c :: cs))
    else
      match n with
      | 0 => .error .tooManyHeaders
      | n + 1 => do
        let (header, rest) ← readHeader (c :: cs)
        let (headers, left) ← readHeaders n rest
        return (header :: headers, left)

/-- The head at the front of a text, and what follows it. -/
def Head.read (cs : List Char) : Except Stop (Head × List Char) := do
  let cs ← skipEmptyLines cs
  let (name, cs) ← upTo ' ' isTokenChar cs
  let (uri, cs) ← upTo ' ' isUriChar cs
  let (version, cs) ← readVersion cs
  let cs ← endOfLine cs
  let (headers, rest) ← readHeaders maxHeaders cs
  match Method.ofString? (String.ofList name) with
  | some method => return (⟨method, String.ofList uri, version, headers⟩, rest)
  | none => throw .malformed

end StubHttp.Http
