import StubHttp.Net.Host

/-!
# Listening sockets

How a program comes to listen: it makes a socket for the kind of address it has,
asks for addresses to be reused, binds it and has it listen (`listenReusable`).

Where a socket listens no other can be bound. When it is closed, the connections
it has taken in run out for a while, and until then its endpoint is lingering:
only a socket that has asked to reuse addresses can be bound there.
-/

namespace StubHttp.Net

/-- The kind of address that a socket is for. -/
inductive Family where
  | v4
  | v6
  deriving DecidableEq

def Endpoint.family : Endpoint → Family
  | .v4 _ _ => .v4
  | .v6 _ _ _ => .v6

structure Socket where
  family : Family
  /-- Whether it may be bound where a socket that was closed is lingering. -/
  reusesAddress : Bool

def Socket.new (family : Family) : Socket :=
  ⟨family, false⟩

/-- The endpoints of a machine that are not free. -/
structure Occupied where
  /-- Where a socket listens. -/
  listening : List Endpoint
  /-- Where one has been closed whose connections are running out. -/
  lingering : List Endpoint

def Occupied.nowhere : Occupied :=
  ⟨[], []⟩

/-- A socket that listens. -/
structure Listener where
  endpoint : Endpoint
  /-- How many clients may wait to be taken in. -/
  backlog : Nat
  deriving DecidableEq

/-- What is occupied while the socket listens. -/
def Listener.whileOpen (l : Listener) : Occupied :=
  ⟨[l.endpoint], []⟩

/-- What is occupied when it has been closed. -/
def Listener.onceClosed (l : Listener) : Occupied :=
  ⟨[], [l.endpoint]⟩

/-- Binds a socket, where these endpoints are occupied. -/
def Host.bindSocket (host : Host) (occupied : Occupied) (socket : Socket) (e : Endpoint) :
    Except IoError Endpoint :=
  match socket.family, e with
  | .v4, .v6 _ _ _ => .error .familyNotSupported
  | .v6, .v4 _ _ => .error .invalidArgument
  | _, _ =>
    if socket.reusesAddress then host.bind occupied.listening e
    else host.bind (occupied.listening ++ occupied.lingering) e

/-- How a system binds the sockets of a program. -/
abbrev Binding := Socket → Endpoint → Except IoError Endpoint

/-- Has a socket listen at an endpoint, also where another has been closed just now. -/
def listenReusable (binding : Binding) (e : Endpoint) (backlog : Nat) :
    Except IoError Listener := do
  let socket := { Socket.new e.family with reusesAddress := true }
  return ⟨← binding socket e, backlog⟩

end StubHttp.Net
