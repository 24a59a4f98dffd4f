import StubHttp.Net.Endpoint
import StubHttp.Net.IoError

/-!
# The machine a server runs on

What a program can observe of its machine when it opens a listening socket: a
`Host` says which addresses its sockets may be bound to, which ports are open
to an ordinary user, which port it hands out when none is asked for, whether
clients get through to a socket that listens, and how taking them in ends.
`Host.bind` is what the system call answers.
-/

namespace StubHttp.Net

structure Host where
  /-- The addresses that a socket may be bound to. -/
  owns : Address → Bool
  /-- The lowest port, other than zero, that needs no privilege. -/
  firstOpenPort : UInt16
  /-- The port that is handed out for port zero. -/
  freePort : UInt16
  freePort_ne_zero : freePort ≠ 0 := by decide
  firstOpenPort_le_freePort : firstOpenPort ≤ freePort := by decide
  /-- Whether clients can connect to a socket that listens. -/
  reachable : Bool
  /-- How taking in clients ends, once it has been told to. A transport that goes on after a client
  it could not take in has no error to end with. -/
  serving : Except IoError Unit := .ok ()

namespace Host

/-- A machine without any network: every IPv4 address may be bound, of the IPv6 addresses only
the unspecified one and those that stand for IPv4, and no client gets through. -/
def isolated : Host where
  owns
    | .v4 _ => true
    | .v6 ip => ip = IPv6.any || ip.mapped?.isSome
  firstOpenPort := 1024
  freePort := 32768
  reachable := false

def isPrivileged (host : Host) (port : UInt16) : Bool :=
  0 < port && port < host.firstOpenPort

/-- Binds a listening socket while other sockets listen at the endpoints `inUse`. With an IPv4
address the address is looked at before the port, with an IPv6 address after it. -/
def bind (host : Host) (inUse : List Endpoint) (e : Endpoint) : Except IoError Endpoint :=
  let privileged := host.isPrivileged e.port
  let foreign := !host.owns e.address
  match e with
  | .v4 _ _ =>
    if foreign then .error .addressUnavailable
    else if privileged then .error .permissionDenied
    else granted
  | .v6 _ _ _ =>
    if privileged then .error .permissionDenied
    else if foreign then .error .addressUnavailable
    else granted
where
  granted : Except IoError Endpoint :=
    if e.port = 0 then .ok (e.withPort host.freePort)
    else if e ∈ inUse then .error .addressInUse
    else .ok e

end Host

end StubHttp.Net
