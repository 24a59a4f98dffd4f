import StubHttp.CommandLine.Usage

/-!
# The host to listen on

The host of a command line has to be the address of an interface. Names are not
looked up, and neither a port nor brackets may come with the address.
-/

namespace StubHttp.CommandLine

open Net

structure HostError where
  host : String
  deriving DecidableEq

namespace HostError

def message (e : HostError) : String :=
  "Invalid host '" ++ e.host ++ "'. Expected an IP address (e.g., 0.0.0.0 or 127.0.0.1)"

def cause (_ : HostError) : String :=
  "invalid IP address syntax"

end HostError

def listenAddress (host : String) : Except HostError Address :=
  match Address.ofString? host with
  | some ip => .ok ip
  | none => .error ⟨host⟩

/-- Where a server with these options listens. -/
def ServeOptions.endpoint (options : ServeOptions) : Except HostError Endpoint := do
  return .ofAddress (← listenAddress options.host) options.port

end StubHttp.CommandLine
