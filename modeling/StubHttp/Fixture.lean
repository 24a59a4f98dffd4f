import StubHttp.Track.Decoder

/-!
# Fixtures

A fixture is one canned reply: the request target it answers, the body it
answers with, and a description for the list of supported queries. A body is
either given as text (`Fixture.mk`) or encoded from a payload once, when the
fixture is made (`Fixture.json`); after that it is never looked into.
-/

namespace StubHttp

structure Fixture where
  path : String
  body : String
  description : String
  deriving DecidableEq

namespace Fixture

def contentType : String := "application/json"

/-- The length of the body in bytes. -/
def size (f : Fixture) : Nat :=
  f.body.utf8ByteSize

end Fixture

/-! ## Payloads -/

/-- What a body can be encoded from. The pairs of a map keep their order and their duplicates;
their keys may be of any kind, though not every kind can be written. -/
inductive Payload where
  | value (v : Json.Value)
  | string (s : String)
  | tracks (ts : List Track)
  | pairs (ps : List (Json.Value × Json.Value))

/-- The JSON value that is written for a payload. -/
def Payload.toJson : Payload → Except Json.EncodeError Json.Value
  | .value v => .ok v
  | .string s => .ok (.string s)
  | .tracks ts => .ok (.array (ts.map Track.toJson))
  | .pairs ps => Json.Value.ofPairs ps

def Payload.encode (p : Payload) : Except Json.EncodeError String := do
  return (← p.toJson).print

/-- The fixture whose body is the compact JSON text of a payload. -/
def Fixture.json (path : String) (payload : Payload) (description : String) :
    Except Json.EncodeError Fixture := do
  return ⟨path, ← payload.encode, description⟩

end StubHttp
