/-!
# Request URIs

The URI of a request has one of four forms: a path and query alone, a star, an
absolute URI with scheme and authority in front of its path and query, or an
authority alone. `Uri.parse` tells them apart and checks every part;
`Uri.target` is all that the server looks at. A fragment is cut off unread.

The scanner for authorities is a small machine (`AuthorityScan`): it reads up
to the first slash, question mark or hash, counts the colons that could
announce a port, and tolerates a percent sign only in what turns out to be user
information or a bracketed host.
-/

namespace StubHttp.Http

inductive UriError where
  | tooLong
  | empty
  | schemeTooLong
  | invalidFormat
  | invalidCharacter
  | invalidAuthority
  deriving DecidableEq

def UriError.message : UriError → String
  | .tooLong => "uri too long"
  | .empty => "empty string"
  | .schemeTooLong => "scheme too long"
  | .invalidFormat => "invalid format"
  | .invalidCharacter => "invalid uri character"
  | .invalidAuthority => "invalid authority"

/-- A URI by its parts. A fragment is no part of it. -/
structure Uri where
  scheme : Option String
  authority : Option String
  pathAndQuery : Option String
  deriving DecidableEq

/-- The target of the request: path and query as they were written, or nothing. -/
def Uri.target (u : Uri) : String :=
  u.pathAndQuery.getD ""

/-! ## Path and query -/

def inRange (low high n : Nat) : Bool :=
  low ≤ n && n ≤ high

/-- The characters of a path. Those outside ASCII are let through as they are. -/
def isPathChar (c : Char) : Bool :=
  let n := c.toNat
  inRange 0x21 0x22 n || inRange 0x24 0x3B n || n == 0x3D || inRange 0x40 0x5F n
    || inRange 0x61 0x7E n || 0x80 ≤ n

/-- The characters of a query, the question mark that begins it included. -/
def isQueryChar (c : Char) : Bool :=
  let n := c.toNat
  n == 0x21 || inRange 0x24 0x3B n || n == 0x3D || inRange 0x3F 0x7E n || 0x80 ≤ n

/-- Path and query up to the fragment; a slash if nothing is left. -/
def readPathAndQuery (cs : List Char) : Except UriError String :=
  let kept := cs.takeWhile (· ≠ '#')
  let path := kept.takeWhile (· ≠ '?')
  let query := kept.dropWhile (· ≠ '?')
  if path.all isPathChar && query.all isQueryChar then
    .ok (if kept.isEmpty then "/" else String.ofList kept)
  else .error .invalidCharacter

/-! ## Authority -/

/-- What the characters of an authority read so far amount to: colons since the last `@` or `]`,
brackets opened and closed, a percent sign since the last `@` or `]`, and whether an `@` came
last. -/
structure AuthorityScan where
  colons : Nat
  opened : Bool
  closed : Bool
  percent : Bool
  atLast : Bool

namespace AuthorityScan

def start : AuthorityScan := ⟨0, false, false, false, false⟩

/-- The characters without meaning of their own in an authority. -/
def isPlain (c : Char) : Bool :=
  c.isAlphanum || "!$&'()*+,-.;=_~".toList.contains c

def step (s : AuthorityScan) (c : Char) : Except UriError AuthorityScan :=
  let s := { s with atLast := c = '@' }
  if c = ':' then
    if 8 ≤ s.colons then .error .invalidAuthority else .ok { s with colons := s.colons + 1 }
  else if c = '[' then
    if s.percent || s.opened then .error .invalidAuthority else .ok { s with opened := true }
  else if c = ']' then
    if !s.opened || s.closed then .error .invalidAuthority
    else .ok { s with closed := true, colons := 0, percent := false }
  else if c = '@' then .ok { s with colons := 0, percent := false }
  else if c = '%' then .ok { s with percent := true }
  else if isPlain c then .ok s
  else .error .invalidCharacter

/-- Whether an authority may end here. -/
def mayEnd (s : AuthorityScan) : Bool :=
  s.opened == s.closed && s.colons ≤ 1 && !s.atLast && !s.percent

end AuthorityScan

def isDelimiter (c : Char) : Bool :=
  c == '/' || c == '?' || c == '#'

/-- Reads an authority and returns it with what follows. -/
def readAuthority (s : AuthorityScan) : List Char → Except UriError (List Char × List Char)
  | [] => if s.mayEnd then .ok ([], []) else .error .invalidAuthority
  | c :: cs =>
    if isDelimiter c then
      if s.mayEnd then .ok ([], c :: cs) else .error .invalidAuthority
    else do
      let (name, rest) ← readAuthority (← s.step c) cs
      return (c :: name, rest)

/-! ## Scheme -/

def isSchemeChar (c : Char) : Bool :=
  c.isAlphanum || "+-.~".toList.contains c

/-- What follows a word that is written in any case. -/
def afterWord? : List Char → List Char → Option (List Char)
  | [], cs => some cs
  | _ :: _, [] => none
  | w :: ws, c :: cs => if c.toLower = w then afterWord? ws cs else none

/-- The scheme before `://`, if there is one, and what follows. The scheme may be empty unless
the text ends there. -/
def readScheme? (cs : List Char) : Except UriError (Option (List Char × List Char)) :=
  match afterWord? "http://".toList cs, afterWord? "https://".toList cs with
  | some rest, _ => .ok (some (cs.take 4, rest))
  | _, some rest => .ok (some (cs.take 5, rest))
  | none, none =>
    let name := cs.takeWhile isSchemeChar
    match afterWord? "://".toList (cs.drop name.length) with
    | some rest =>
      if name.isEmpty ∧ rest.isEmpty then .ok none
      else if 64 < name.length then .error .schemeTooLong
      else .ok (some (name, rest))
    | none => .ok none

/-! ## Whole URIs -/

def maxUriLength : Nat := 65534

def authorityAlone (cs : List Char) : Except UriError Uri := do
  let (name, rest) ← readAuthority .start cs
  match rest with
  | [] => return ⟨none, some (String.ofList name), none⟩
  | _ :: more => throw (if name.isEmpty ∧ more.isEmpty then .invalidCharacter else .invalidFormat)

/-- What follows the scheme of an absolute URI. -/
def afterScheme (scheme cs : List Char) : Except UriError Uri := do
  if cs.isEmpty then throw .empty
  let (name, rest) ← readAuthority .start cs
  if name.isEmpty then throw .invalidFormat
  return ⟨some (String.ofList scheme), some (String.ofList name), some (← readPathAndQuery rest)⟩

def Uri.parse (s : String) : Except UriError Uri :=
  if maxUriLength < s.utf8ByteSize then .error .tooLong
  else
    match s.toList with
    | [] => .error .empty
    | ['*'] => .ok ⟨none, none, some "*"⟩
    | '/' :: cs => do return ⟨none, none, some (← readPathAndQuery ('/' :: cs))⟩
    | cs => do
      match ← readScheme? cs with
      | some (scheme, rest) => afterScheme scheme rest
      | none => authorityAlone cs

end StubHttp.Http
