import StubHttp.Http.Connection
import StubHttp.Listing
import StubHttp.Net.Socket

/-!
# Servers

A server is set up with a configuration and a catalog (`HttpServer.new`), and
reports to the standard output unless it is given another sink. It is bound to
its endpoint, which makes a router from its catalog and its sink, and then it is
served. Sinks are shared: a server has a handle on one (`SinkHandle`), and what
it has written there outlives it (`Sinks`).

While a server is served, clients may connect, someone may try to bind a second
server where it listens, and it may be stopped and another one set up in its
place (`Server.step`).
-/

namespace StubHttp

open Net

/-- The port that is listened on unless another is asked for. -/
def defaultPort : UInt16 := 52001

structure ServerConfig where
  endpoint : Endpoint
  backlog : Nat

def ServerConfig.default : ServerConfig :=
  ⟨.v4 .any defaultPort, 1024⟩

/-! ## Errors -/

inductive ServerError where
  | bind (endpoint : Endpoint) (cause : IoError)
  | serve (cause : IoError)
  deriving DecidableEq

namespace ServerError

def message : ServerError → String
  | .bind endpoint cause => "Failed to bind " ++ endpoint.print ++ ": " ++ cause.message
  | .serve cause => "Server error: " ++ cause.message

def cause : ServerError → IoError
  | .bind _ cause => cause
  | .serve cause => cause

end ServerError

/-! ## Sinks -/

/-- A handle on a sink: on the standard output, or on one that has been supplied. -/
inductive SinkHandle where
  | stdout
  | supplied
  deriving DecidableEq

/-- The consoles that the handles stand for. -/
structure Sinks where
  stdout : Console
  supplied : Console

def Sinks.get (sinks : Sinks) : SinkHandle → Console
  | .stdout => sinks.stdout
  | .supplied => sinks.supplied

def Sinks.set (sinks : Sinks) (handle : SinkHandle) (console : Console) : Sinks :=
  match handle with
  | .stdout => { sinks with stdout := console }
  | .supplied => { sinks with supplied := console }

/-! ## Setting up -/

structure HttpServer where
  config : ServerConfig
  catalog : Catalog
  diagnostics : SinkHandle

namespace HttpServer

def new (config : ServerConfig) (catalog : Catalog) : HttpServer :=
  ⟨config, catalog, .stdout⟩

/-- Has diagnostics sent to a sink instead of the standard output. -/
def withDiagnostics (server : HttpServer) (sink : SinkHandle) : HttpServer :=
  { server with diagnostics := sink }

/-- A server set up anew for another endpoint, with the catalog and the sink of this one. -/
def anew (server : HttpServer) (endpoint : Endpoint) : HttpServer :=
  (new { server.config with endpoint } server.catalog).withDiagnostics server.diagnostics

end HttpServer

/-! ## Events -/

namespace Event

def ofServer (message : String) : Event :=
  ⟨.info, .server, message, []⟩

def boundTo (e : Endpoint) : Event :=
  ofServer ("Fixture server bound to " ++ e.print)

def servingOn (e : Endpoint) : Event :=
  ofServer ("Serving fixtures on " ++ e.print)

def stoppedOn (e : Endpoint) : Event :=
  ofServer ("Fixture server on " ++ e.print ++ " stopped")

end Event

/-! ## Binding -/

/-- What connections are answered from, and where their diagnostics go. -/
structure Router where
  catalog : Catalog
  diagnostics : SinkHandle

/-- A server whose socket is bound and listens. -/
structure BoundServer where
  listener : Listener
  /-- Where it listens, also if no port was asked for. -/
  endpoint : Endpoint
  router : Router

namespace HttpServer

/-- The server behind a socket that listens. -/
def behind (server : HttpServer) (listener : Listener) : BoundServer where
  listener := listener
  endpoint := listener.endpoint
  router := ⟨server.catalog, server.diagnostics⟩

/-- Binds a server to its endpoint, and tells what it logs if that succeeds. -/
def bind (server : HttpServer) (binding : Binding) :
    Except ServerError (BoundServer × List Event) := do
  let listener ← (listenReusable binding server.config.endpoint server.config.backlog).mapError
    (.bind server.config.endpoint)
  return (server.behind listener, [.boundTo listener.endpoint])

/-- Binds a server and begins to serve. -/
def launch (server : HttpServer) (binding : Binding) :
    Except ServerError (BoundServer × List Event) := do
  let (bound, events) ← server.bind binding
  return (bound, events ++ [.servingOn bound.endpoint])

end HttpServer

/-! ## Stopping -/

/-- What a server waits for while it is served: a signal to stop, or nothing. -/
inductive StopSignal where
  | whenTold
  | never

inductive Ending where
  | stopped
  | aborted
  deriving DecidableEq

/-- A server that waits for a signal lets the requests in flight finish; another is cut off. -/
def StopSignal.ending : StopSignal → Ending
  | .whenTold => .stopped
  | .never => .aborted

/-- Puts an end to serving, and tells what is logged if that succeeds. The transport is waited for
only by a server that has been told to stop; it ends as `serving` says. -/
def BoundServer.stop (bound : BoundServer) (signal : StopSignal) (serving : Except IoError Unit) :
    Except ServerError (Ending × List Event) :=
  match signal.ending with
  | .stopped => do
    serving.mapError .serve
    return (.stopped, [.stoppedOn bound.endpoint])
  | .aborted => .ok (.aborted, [])

/-! ## Running -/

/-- A server that is being served, with what it has been set up from and the sinks there are. -/
structure Server where
  setup : HttpServer
  bound : BoundServer
  signal : StopSignal
  sinks : Sinks

namespace Server

def endpoint (s : Server) : Endpoint :=
  s.bound.endpoint

def catalog (s : Server) : Catalog :=
  s.bound.router.catalog

/-- The console that diagnostics are written to. -/
def console (s : Server) : Console :=
  s.sinks.get s.bound.router.diagnostics

/-- The server when its diagnostics have left the console like this. -/
def withConsole (s : Server) (console : Console) : Server :=
  { s with sinks := s.sinks.set s.bound.router.diagnostics console }

def ending (s : Server) : Ending :=
  s.signal.ending

def stop (s : Server) (host : Host) : Except ServerError (Ending × List Event) :=
  s.bound.stop s.signal host.serving

end Server

/-- Binds a server on a machine where nothing else listens and has it served. -/
def HttpServer.start (server : HttpServer) (host : Host) (sinks : Sinks) (signal : StopSignal) :
    Except ServerError (Server × List Event) := do
  let (bound, events) ← server.launch (host.bindSocket .nowhere)
  return (⟨server, bound, signal, sinks⟩, events)

/-- A server for a catalog, which reports to a sink that has been supplied. -/
def Server.start (host : Host) (config : ServerConfig) (catalog : Catalog) (console : Console)
    (graceful : Bool) : Except ServerError Server := do
  let server := (HttpServer.new config catalog).withDiagnostics .supplied
  let signal := if graceful then .whenTold else .never
  let (s, _) ← server.start host ⟨.empty .unlimited, console⟩ signal
  return s

inductive Step where
  /-- A client connects, sends a text and reads until the server closes. -/
  | request (raw : String)
  /-- Someone binds a second server to the same endpoint. -/
  | bindAgain
  /-- The server is stopped, and another one set up, bound and served in its place. -/
  | restart

inductive StepResult where
  | answered (response : Option Http.Response)
  | unreachable
  | bound
  | failed (error : ServerError)
  | restarted (ending : Ending) (sameEndpoint : Bool)
  deriving DecidableEq

/-- What a step gives, the server after it, and the events on the way. A restart that fails leaves
no server. -/
def Server.step (host : Host) (s : Server) : Step → StepResult × Option Server × List Event
  | .request raw =>
    if host.reachable then
      let served := Http.serveConnection s.catalog s.console raw
      (.answered served.response, some (s.withConsole served.console), served.events)
    else (.unreachable, some s, [])
  | .bindAgain =>
    match (s.setup.anew s.endpoint).bind (host.bindSocket s.bound.listener.whileOpen) with
    | .ok (_, events) => (.bound, some s, events)
    | .error e => (.failed e, some s, [])
  | .restart =>
    match s.stop host with
    | .error e => (.failed e, none, [])
    | .ok (ending, closing) =>
      match (s.setup.anew s.endpoint).launch (host.bindSocket s.bound.listener.onceClosed) with
      | .error e => (.failed e, none, closing)
      | .ok (bound, opening) =>
        (.restarted ending (bound.endpoint = s.endpoint), some { s with bound }, closing ++ opening)

/-- Takes steps one after the other, until one leaves no server: each result with the server after
it, and the events. -/
def Server.run (host : Host) (s : Server) : List Step → List (StepResult × Server × List Event)
  | [] => []
  | step :: rest =>
    match s.step host step with
    | (result, some next, events) => (result, next, events) :: Server.run host next rest
    | (result, none, events) => [(result, s, events)]

end StubHttp
