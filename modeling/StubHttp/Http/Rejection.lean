import StubHttp.Http.Head
import StubHttp.Http.Uri

/-!
# Heads that are not handled

A head that can be read may still be rejected before anyone handles it: its URI
is no URI or too long, or its headers do not say how long the body is. A body
has a length, or it comes in chunks. Lengths must agree with each other, and
where a transfer encoding has been named before they no longer matter; the last
transfer encoding must end in chunks.
-/

namespace StubHttp.Http

inductive Rejection where
  | badRequest
  | uriTooLong
  /-- More is announced than can be taken. -/
  | tooLarge
  deriving DecidableEq

/-! ## The body -/

def lower (s : String) : String :=
  String.ofList (s.toList.map Char.toLower)

/-- A body length: digits alone, of a number that fits 64 bits. -/
def bodyLength? (value : String) : Option Nat :=
  let n := Nat.ofDigitChars 10 value.toList 0
  if !value.isEmpty ∧ value.toList.all Char.isDigit ∧ n < UInt64.size then some n else none

/-- The longest body; two lengths of 64 bits are set aside. -/
def maxBodyLength : Nat := UInt64.size - 3

/-- Whether a transfer encoding ends in chunks. One with characters beyond ASCII never does. -/
def endsChunked (value : String) : Bool :=
  let last := (value.toList.reverse.takeWhile (· ≠ ',')).reverse
  value.toList.all (·.toNat < 0x80) && lower (String.ofList (trimSpaces last)) = "chunked"

/-- What the headers up to some line say about the body. -/
structure Framing where
  length : Option Nat
  /-- Whether the last transfer encoding ends in chunks, if one has been named. -/
  chunked : Option Bool

def Framing.start : Framing :=
  ⟨none, none⟩

def Framing.header (version : Version) (f : Framing) (header : String × String) :
    Except Rejection Framing :=
  let (name, value) := header
  if lower name = "content-length" ∧ f.chunked.isNone then
    match bodyLength? value with
    | none => .error .badRequest
    | some n =>
      match f.length with
      | some m => if m = n then .ok f else .error .badRequest
      | none => if n ≤ maxBodyLength then .ok { f with length := some n } else .error .tooLarge
  else if lower name = "transfer-encoding" then
    if version = .http10 then .error .badRequest
    else .ok { f with chunked := some (endsChunked value) }
  else .ok f

/-! ## The target -/

/-- The target that a head asks for. The URI is looked at before the headers. -/
def Head.target (h : Head) : Except Rejection String :=
  if maxUriLength < h.uri.utf8ByteSize then .error .uriTooLong
  else
    match Uri.parse h.uri with
    | .error _ => .error .badRequest
    | .ok u => do
      let framing ← h.headers.foldlM (Framing.header h.version) .start
      if framing.chunked = some false then throw .badRequest
      return u.target

end StubHttp.Http
